import WebTransport.Bindings.QuicVarint

/-!
# TextUtil — the UTF-8 check shared by the bindings (`text_util.h`)

`isValidUtf8` walks the bytes one encoded character at a time, as the source does with its
`offset`; the walk is driven by a step budget that the byte count always covers.
-/

namespace WebTransport
namespace Bindings

/-- The lead byte's classification: number of continuation bytes, smallest code point that needs
that many, and the payload bits of the lead byte. -/
def utf8Lead (b : Nat) : Option (Nat × Nat × Nat) :=
  if b / 2 ^ 5 = 0xC0 / 2 ^ 5 then some (1, 0x80, b % 2 ^ 5)
  else if b / 2 ^ 4 = 0xE0 / 2 ^ 4 then some (2, 0x800, b % 2 ^ 4)
  else if b / 2 ^ 3 = 0xF0 / 2 ^ 3 then some (3, 0x10000, b % 2 ^ 3)
  else none

/-- The `for` loop over the continuation bytes: the code point, or `none` at a byte that is not
a continuation byte. -/
def utf8Continuation (codepoint : Nat) : Bytes → Option Nat
  | [] => some codepoint
  | b :: rest =>
      if b.toNat / 2 ^ 6 ≠ 0x80 / 2 ^ 6 then none
      else utf8Continuation (codepoint * 2 ^ 6 + b.toNat % 2 ^ 6) rest

/-- The `while (offset < length)` loop. -/
def isValidUtf8Loop : Nat → Bytes → Bool
  | _, [] => true
  | 0, _ :: _ => false
  | fuel + 1, b :: rest =>
      if b.toNat ≤ 0x7F then isValidUtf8Loop fuel rest
      else
        match utf8Lead b.toNat with
        | none => false
        | some (extra, minCodepoint, lead) =>
            if rest.length < extra then false
            else
              match utf8Continuation lead (rest.take extra) with
              | none => false
              | some codepoint =>
                  if codepoint < minCodepoint ∨ codepoint > 0x10FFFF ∨
                      (codepoint ≥ 0xD800 ∧ codepoint ≤ 0xDFFF) then false
                  else isValidUtf8Loop fuel (rest.drop extra)

/-- `is_valid_utf8` -/
def isValidUtf8 (data : Bytes) : Bool := isValidUtf8Loop data.length data

end Bindings
end WebTransport
