/-!
# UTF-8

The decoding of bytes as UTF-8. Each byte sequence that encodes no character, taken as long as it
could still begin one, is a gap.
-/

namespace CrashTriage.Utf8

/-- What a first byte announces: the bits it gives, how many bytes follow, and the range of the
next byte. -/
structure Lead where
  bits : Nat
  following : Nat
  low : Nat
  high : Nat

/-- The announcement of a first byte, if it may begin a character. The range of the second byte
leaves out encodings that are too long, surrogates, and code points past the last. -/
def lead? (byte : Nat) : Option Lead :=
  if byte < 0x80 then some ⟨byte, 0, 0, 0⟩
  else if byte < 0xc2 then none
  else if byte < 0xe0 then some ⟨byte - 0xc0, 1, 0x80, 0xbf⟩
  else if byte = 0xe0 then some ⟨0, 2, 0xa0, 0xbf⟩
  else if byte = 0xed then some ⟨0xd, 2, 0x80, 0x9f⟩
  else if byte < 0xf0 then some ⟨byte - 0xe0, 2, 0x80, 0xbf⟩
  else if byte = 0xf0 then some ⟨0, 3, 0x90, 0xbf⟩
  else if byte < 0xf4 then some ⟨byte - 0xf0, 3, 0x80, 0xbf⟩
  else if byte = 0xf4 then some ⟨4, 3, 0x80, 0x8f⟩
  else none

/-- The bytes that continue a character: at most `count`, the first in the given range. -/
def continuation : (count low high : Nat) → List UInt8 → List Nat
  | 0, _, _, _ => []
  | _ + 1, _, _, [] => []
  | count + 1, low, high, byte :: rest =>
    if low ≤ byte.toNat ∧ byte.toNat ≤ high then
      byte.toNat :: continuation count 0x80 0xbf rest
    else []

/-- The characters that bytes encode, with `none` for each gap. -/
def decode (bytes : List UInt8) : List (Option Char) :=
  match bytes with
  | [] => []
  | byte :: rest =>
    match lead? byte.toNat with
    | none => none :: decode rest
    | some lead =>
      let tail := continuation lead.following lead.low lead.high rest
      let unit :=
        if tail.length = lead.following then
          some (Char.ofNat (tail.foldl (fun bits byte => 64 * bits + (byte - 0x80)) lead.bits))
        else none
      unit :: decode (rest.drop tail.length)
termination_by bytes.length
decreasing_by all_goals (simp only [List.length_drop, List.length_cons]; omega)

/-- The text that bytes encode, a replacement character standing for each gap. -/
def decodeLossy (bytes : List UInt8) : List Char :=
  (decode bytes).map fun unit => unit.getD '\ufffd'

/-- The text that bytes encode, if there is no gap. -/
def decode? (bytes : List UInt8) : Option (List Char) :=
  (decode bytes).mapM id

end CrashTriage.Utf8
