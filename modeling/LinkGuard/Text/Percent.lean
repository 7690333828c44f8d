/-!
# Percent-encoding

A byte that may not stand for itself is written as `%` and two hex digits. Writing uses capital
digits; reading accepts both cases and leaves a `%` without two digits behind it as it is, so
decoding is total.
-/

namespace LinkGuard.Percent

/-- The value of a hex digit, in either case. -/
def hexValue? (byte : UInt8) : Option UInt8 :=
  if 0x30 ≤ byte ∧ byte ≤ 0x39 then some (byte - 0x30)
  else if 0x41 ≤ byte ∧ byte ≤ 0x46 then some (byte - 0x37)
  else if 0x61 ≤ byte ∧ byte ≤ 0x66 then some (byte - 0x57)
  else none

/-- The byte of a capital hex digit. -/
def hexDigit (value : UInt8) : UInt8 :=
  if value < 10 then 0x30 + value else 0x37 + value

/-- The written form of a byte that may not stand for itself. -/
def encodeByte (byte : UInt8) : List UInt8 :=
  [0x25, hexDigit (byte / 16), hexDigit (byte % 16)]

/-- The byte that two hex digits stand for, and what follows them. -/
def escape? : List UInt8 → Option (UInt8 × List UInt8)
  | high :: low :: after =>
    match hexValue? high, hexValue? low with
    | some high, some low => some (high * 16 + low, after)
    | _, _ => none
  | _ => none

theorem length_of_escape? {bytes after : List UInt8} {value : UInt8}
    (found : escape? bytes = some (value, after)) : after.length < bytes.length := by
  unfold escape? at found
  split at found
  · split at found
    · simp only [Option.some.injEq, Prod.mk.injEq] at found
      simp only [← found.2, List.length_cons]
      omega
    · simp at found
  · simp at found

/-- Undoes percent-encoding onto the bytes decoded so far, which are kept last first. -/
def decodeOnto (decoded : List UInt8) (bytes : List UInt8) : List UInt8 :=
  match bytes with
  | [] => decoded.reverse
  | byte :: rest =>
    if byte = 0x25 then
      match found : escape? rest with
      | some (value, after) =>
        have := length_of_escape? found
        decodeOnto (value :: decoded) after
      | none => decodeOnto (byte :: decoded) rest
    else decodeOnto (byte :: decoded) rest
  termination_by bytes.length

/-- Undoes percent-encoding. -/
def decode (bytes : List UInt8) : List UInt8 :=
  decodeOnto [] bytes

end LinkGuard.Percent
