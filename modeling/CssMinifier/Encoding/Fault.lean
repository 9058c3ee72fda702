import CssMinifier.Text.Quoted

/-! Faults in encoded text: which bytes do not decode, and why. -/

namespace CssMinifier.Encoding

/-- A sequence of bytes. -/
abbrev Bytes := List UInt8

/-- Why bytes do not decode. -/
inductive Reason
  | invalidStart
  | invalidContinuation
  | unexpectedEnd
  | truncated
  | illegalEncoding
  | illegalSurrogate
  | outOfRange
  | undefined
deriving DecidableEq

/-- The words for a reason. -/
def Reason.text : Reason → String
  | .invalidStart => "invalid start byte"
  | .invalidContinuation => "invalid continuation byte"
  | .unexpectedEnd => "unexpected end of data"
  | .truncated => "truncated data"
  | .illegalEncoding => "illegal encoding"
  | .illegalSurrogate => "illegal UTF-16 surrogate"
  | .outOfRange => "ordinal not in range(128)"
  | .undefined => "character maps to <undefined>"

/-- The bytes that do not decode: the first of them, its position, and how many they are. -/
structure Fault where
  codec : String
  first : UInt8
  position : Nat
  length : Nat
  reason : Reason
deriving DecidableEq

/-- The text of a fault. -/
def Fault.message (fault : Fault) : String :=
  let place :=
    if fault.length = 1 then
      "byte 0x" ++ String.ofList (Text.hexDigits 2 fault.first.toNat) ++ " in position "
        ++ toString fault.position
    else
      "bytes in position " ++ toString fault.position ++ "-"
        ++ toString (fault.position + fault.length - 1)
  "'" ++ fault.codec ++ "' codec can't decode " ++ place ++ ": " ++ fault.reason.text

end CssMinifier.Encoding
