/-
# `Workplan.Text.Utf8` — bytes read as UTF-8

Output of scripts is read leniently: every longest run of bytes that begins a character but does
not complete one is replaced by U+FFFD.
-/

namespace Workplan.Text.Utf8

/-- The character that stands for bytes that are none. -/
def replacement : Char := '\ufffd'

/-- The low six bits of a continuation byte. -/
def low6 (b : UInt8) : Nat := b.toNat % 0x40

/-- A byte that continues a character. -/
def continues (b : UInt8) : Bool := 0x80 ≤ b && b ≤ 0xBF

/-- The bytes that may follow the first byte of a longer character. -/
def secondByte (first second : UInt8) : Bool :=
  if first = 0xE0 then 0xA0 ≤ second && second ≤ 0xBF
  else if first = 0xED then 0x80 ≤ second && second ≤ 0x9F
  else if first = 0xF0 then 0x90 ≤ second && second ≤ 0xBF
  else if first = 0xF4 then 0x80 ≤ second && second ≤ 0x8F
  else continues second

/-- The characters of a list of bytes, read leniently. -/
def decode : List UInt8 → List Char
  | [] => []
  | a :: rest =>
    if a < 0x80 then Char.ofNat a.toNat :: decode rest
    else if 0xC2 ≤ a && a ≤ 0xDF then
      match rest with
      | b :: more =>
        if continues b then Char.ofNat (a.toNat % 0x20 * 0x40 + low6 b) :: decode more
        else replacement :: decode (b :: more)
      | [] => [replacement]
    else if 0xE0 ≤ a && a ≤ 0xEF then
      match rest with
      | b :: c :: more =>
        if secondByte a b then
          if continues c then
            Char.ofNat ((a.toNat % 0x10 * 0x40 + low6 b) * 0x40 + low6 c) :: decode more
          else replacement :: decode (c :: more)
        else replacement :: decode (b :: c :: more)
      | [b] => if secondByte a b then [replacement] else replacement :: decode [b]
      | [] => [replacement]
    else if 0xF0 ≤ a && a ≤ 0xF4 then
      match rest with
      | b :: c :: d :: more =>
        if secondByte a b then
          if continues c then
            if continues d then
              Char.ofNat (((a.toNat % 8 * 0x40 + low6 b) * 0x40 + low6 c) * 0x40 + low6 d) ::
                decode more
            else replacement :: decode (d :: more)
          else replacement :: decode (c :: d :: more)
        else replacement :: decode (b :: c :: d :: more)
      | [b, c] =>
        if secondByte a b then
          if continues c then [replacement] else replacement :: decode [c]
        else replacement :: decode [b, c]
      | [b] => if secondByte a b then [replacement] else replacement :: decode [b]
      | [] => [replacement]
    else replacement :: decode rest
termination_by bytes => bytes.length
decreasing_by all_goals simp_all <;> omega

/-- The text of bytes, read leniently. -/
def lenient (bytes : ByteArray) : String := String.ofList (decode bytes.toList)

end Workplan.Text.Utf8
