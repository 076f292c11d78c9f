import WebTransport.Bindings.QuicVarint

/-!
# PythonInput — the size check at the Python boundary (`python_input.h`)

Every binding that copies `bytes` from Python checks their size first, so no data longer than
`kMaxPythonInputBytes` reaches the session objects in one call.
-/

namespace WebTransport
namespace Bindings

/-- `kMaxPythonInputBytes` -/
def kMaxPythonInputBytes : Nat := 1024 * 1024

/-- `check_python_input_size`; the exception is `std::invalid_argument`. -/
def checkPythonInputSize (name : String) (size : Nat) : Except String Unit :=
  if size > kMaxPythonInputBytes then
    .error (name ++ " must be at most " ++ toString kMaxPythonInputBytes ++ " bytes: got " ++
      toString size)
  else .ok ()

theorem checkPythonInputSize_ok {name : String} {size : Nat}
    (h : checkPythonInputSize name size = .ok ()) : size ≤ kMaxPythonInputBytes := by
  unfold checkPythonInputSize at h
  split_ifs at h with hsize
  exact not_lt.1 hsize

end Bindings
end WebTransport
