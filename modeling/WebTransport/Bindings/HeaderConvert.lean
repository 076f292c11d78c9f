import WebTransport.Bindings.QuicVarint

/-!
# HeaderConvert — URL splitting shared by the bindings (`header_convert.h`)
-/

namespace WebTransport
namespace Bindings

/-- The text behind the first `://`. -/
def afterScheme : Bytes → Option Bytes
  | [] => none
  | c :: rest =>
      if c = 58 ∧ rest.take 2 = [47, 47] then some (rest.drop 2) else afterScheme rest

/-- `parse_authority_path`: authority and path of a URL, `none` without a `://`. -/
def parseAuthorityPath (url : Bytes) : Option (Bytes × Bytes) :=
  match afterScheme url with
  | none => none
  | some rest =>
      let authority := rest.takeWhile (· ≠ 47)
      let path := rest.dropWhile (· ≠ 47)
      some (authority, if path = [] then [47] else path)

end Bindings
end WebTransport
