import CrashTriage.Http.Utf8
import CrashTriage.Text.Split

/-!
# Form-encoded queries

The query of a request as a list of fields: pieces divided by ampersands, each a name and a value
divided by the first equals sign, both with a plus sign for a space and a percent sign before two
hexadecimal digits for a byte.
-/

namespace CrashTriage

/-- The value of a hexadecimal digit. -/
def hexDigit? (byte : UInt8) : Option UInt8 :=
  if 0x30 ≤ byte ∧ byte ≤ 0x39 then some (byte - 0x30)
  else if 0x41 ≤ byte ∧ byte ≤ 0x46 then some (byte - 0x41 + 10)
  else if 0x61 ≤ byte ∧ byte ≤ 0x66 then some (byte - 0x61 + 10)
  else none

/-- The byte that a percent sign and two hexadecimal digits stand for. -/
def escapedByte? (mark high low : UInt8) : Option UInt8 :=
  if mark = 0x25 then do pure (16 * (← hexDigit? high) + (← hexDigit? low)) else none

/-- The bytes that a percent-encoded text stands for; a percent sign before anything but two
hexadecimal digits stands for itself. -/
def percentDecode : List UInt8 → List UInt8
  | mark :: high :: low :: rest =>
    match escapedByte? mark high low with
    | some byte => byte :: percentDecode rest
    | none => mark :: percentDecode (high :: low :: rest)
  | byte :: rest => byte :: percentDecode rest
  | [] => []

/-- A name or value of a field. -/
def formDecode (bytes : List UInt8) : String :=
  let spaced := bytes.map fun byte => if byte = 0x2b then 0x20 else byte
  String.ofList (Utf8.decodeLossy (percentDecode spaced))

/-- A field of a query. -/
structure FormField where
  name : String
  value : String
deriving DecidableEq

/-- The fields of a query. -/
def formFields (query : List UInt8) : List FormField :=
  ((splitOn 0x26 query).filter (!·.isEmpty)).map fun piece =>
    let (name, value) := splitFirst 0x3d piece
    ⟨formDecode name, formDecode value⟩

/-- The value of a field that may occur once at most; `none` when it occurs more often. -/
def formValue? (fields : List FormField) (name : String) : Option (Option String) :=
  match fields.filter (·.name = name) with
  | [] => some none
  | [field] => some (some field.value)
  | _ => none

end CrashTriage
