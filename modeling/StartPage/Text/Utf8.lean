/-! Texts as bytes. `encode` writes characters in UTF-8 and `decode` reads
bytes back one unit at a time; a unit is either a character or a stretch of
bytes that no character begins with. Strict and lenient reading differ only in
what they do with such a stretch. -/
namespace StartPage.Text.Utf8

/-- The number of bytes that a text takes. -/
def size : List Char → Nat
  | [] => 0
  | c :: s => c.utf8Size + size s

/-- The bytes of one character. -/
def encodeChar (c : Char) : List UInt8 :=
  let n := c.toNat
  if n < 0x80 then [.ofNat n]
  else if n < 0x800 then [.ofNat (0xC0 + n / 0x40), .ofNat (0x80 + n % 0x40)]
  else if n < 0x10000 then
    [.ofNat (0xE0 + n / 0x1000), .ofNat (0x80 + n / 0x40 % 0x40), .ofNat (0x80 + n % 0x40)]
  else
    [.ofNat (0xF0 + n / 0x40000), .ofNat (0x80 + n / 0x1000 % 0x40),
      .ofNat (0x80 + n / 0x40 % 0x40), .ofNat (0x80 + n % 0x40)]

/-- The bytes of a text. -/
def encode (s : List Char) : List UInt8 := s.flatMap encodeChar

/-- How a character of several bytes goes on after its first byte: how many
bytes follow, the bits that the first byte contributes and the bounds of the
second byte, which rule out overlong forms, surrogates and too large numbers. -/
structure Lead where
  following : Nat
  bits : Nat
  low : Nat := 0x80
  high : Nat := 0xBF

/-- What the first byte of a character of several bytes announces. -/
def lead? (b : Nat) : Option Lead :=
  if 0xC2 ≤ b && b ≤ 0xDF then some { following := 1, bits := b - 0xC0 }
  else if b = 0xE0 then some { following := 2, bits := 0, low := 0xA0 }
  else if b = 0xED then some { following := 2, bits := 0xD, high := 0x9F }
  else if 0xE1 ≤ b && b ≤ 0xEF then some { following := 2, bits := b - 0xE0 }
  else if b = 0xF0 then some { following := 3, bits := 0, low := 0x90 }
  else if 0xF1 ≤ b && b ≤ 0xF3 then some { following := 3, bits := b - 0xF0 }
  else if b = 0xF4 then some { following := 3, bits := 4, high := 0x8F }
  else none

/-- Read up to `count` continuation bytes onto `bits`, the first of them within
the given bounds. The answer is the number read, or none if a byte does not
fit, and what is left unread. -/
def continuation (count bits low high : Nat) (bs : List UInt8) : Option Nat × List UInt8 :=
  match count, bs with
  | 0, bs => (some bits, bs)
  | _ + 1, [] => (none, [])
  | n + 1, b :: bs =>
    if low ≤ b.toNat && b.toNat ≤ high then
      continuation n (bits * 0x40 + (b.toNat - 0x80)) 0x80 0xBF bs
    else (none, b :: bs)

theorem continuation_length_le (count bits low high : Nat) (bs : List UInt8) :
    (continuation count bits low high bs).2.length ≤ bs.length := by
  induction count generalizing bits low high bs with
  | zero => simp [continuation]
  | succ n ih =>
      cases bs with
      | nil => simp [continuation]
      | cons b bs =>
          simp only [continuation]
          split
          · exact Nat.le_succ_of_le (ih ..)
          · exact Nat.le_refl _

/-- The units of a text in bytes. `none` stands for a maximal stretch of bytes
that begins a character and breaks off, or for a byte that begins none. -/
def decode : List UInt8 → List (Option Char)
  | [] => []
  | b :: bs =>
    if b.toNat < 0x80 then some (Char.ofNat b.toNat) :: decode bs
    else match lead? b.toNat with
      | none => none :: decode bs
      | some l =>
        have := continuation_length_le l.following l.bits l.low l.high bs
        let unit := continuation l.following l.bits l.low l.high bs
        unit.1.map Char.ofNat :: decode unit.2
  termination_by bs => bs.length

/-- The text that the bytes encode, if every unit is a character. -/
def decode? (bs : List UInt8) : Option (List Char) := (decode bs).mapM id

/-- The text of the bytes, with one replacement character for every unit that
is no character. -/
def decodeLenient (bs : List UInt8) : List Char :=
  (decode bs).map fun c => c.getD '\uFFFD'

end StartPage.Text.Utf8
