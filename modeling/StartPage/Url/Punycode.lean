import StartPage.Text.Split

/-! Labels of any letters, written in ASCII. The ASCII characters of a label
come first; the others follow as one row of digits that tells, in ascending
order, which character stands where. How many digits a step takes adapts to the
steps before it. -/
namespace StartPage.Url.Punycode

def digit (d : Nat) : Char :=
  if d < 26 then Char.ofNat (97 + d) else Char.ofNat (22 + d)

def digitValue? (c : Char) : Option Nat :=
  if 'a' ≤ c && c ≤ 'z' then some (c.toNat - 97)
  else if 'A' ≤ c && c ≤ 'Z' then some (c.toNat - 65)
  else if '0' ≤ c && c ≤ '9' then some (c.toNat - 22)
  else none

/-- The least digit that does not end a number, at the weight `k`. -/
def threshold (k bias : Nat) : Nat := min 26 (max 1 (k - bias))

/-- Bring a step down to the range in which the bias is computed. The second
number counts the divisions. -/
def shrink (delta : Nat) : Nat × Nat :=
  if delta ≤ 455 then (delta, 0)
  else
    let (d, k) := shrink (delta / 35)
    (d, k + 36)
  termination_by delta

/-- The bias for the next step, after a step over `delta` with `count`
characters placed. -/
def adapt (delta count : Nat) (first : Bool) : Nat :=
  let delta := if first then delta / 700 else delta / 2
  let (d, k) := shrink (delta + delta / count)
  k + 36 * d / (d + 38)

/-- A step in digits, the least significant first. -/
def writeDelta (bias k q : Nat) : List Char :=
  let t := threshold k bias
  if q < t then [digit q]
  else digit (t + (q - t) % (36 - t)) :: writeDelta bias (k + 36) ((q - t) / (36 - t))
  termination_by q
  decreasing_by
    have ht : 1 ≤ threshold k bias := by simp only [threshold]; omega
    exact Nat.lt_of_le_of_lt (Nat.div_le_self ..) (by omega)

/-- Where the writer stands: the step since the last character placed, the
bias, and how many characters are placed. -/
structure Writer where
  delta : Nat
  bias : Nat
  placed : Nat
  first : Bool

/-- Place every occurrence of the code point `n` in the label. -/
def placeAll (n : Nat) (w : Writer) : List Nat → Writer × List Char
  | [] => (w, [])
  | c :: label =>
    if c < n then placeAll n { w with delta := w.delta + 1 } label
    else if c = n then
      let bias := adapt w.delta (w.placed + 1) w.first
      let (w', out) := placeAll n ⟨0, bias, w.placed + 1, false⟩ label
      (w', writeDelta w.bias 36 w.delta ++ out)
    else placeAll n w label

/-- Place the code points of a list in turn, `n` being the next candidate. -/
def placeEach (label : List Nat) (n : Nat) (w : Writer) : List Nat → List Char
  | [] => []
  | m :: ms =>
    let w := { w with delta := w.delta + (m - n) * (w.placed + 1) }
    let (w, out) := placeAll m w label
    out ++ placeEach label (m + 1) { w with delta := w.delta + 1 } ms

/-- A label in ASCII, without the mark in front. -/
def encode (label : List Char) : List Char :=
  let ascii := label.filter fun c => c.toNat < 0x80
  let others := (label.map Char.toNat).filter (0x80 ≤ ·)
  let ascending := (others.mergeSort fun a b => decide (a ≤ b)).eraseDups
  (if ascii = [] then [] else ascii ++ ['-']) ++
    placeEach (label.map Char.toNat) 0x80 ⟨0, 72, ascii.length, true⟩ ascending

/-- Where the reader stands: the code point and the place reached, the place
at which the current step began, the weight and the position of the next digit,
the bias and the characters placed. -/
structure Scan where
  n : Nat := 0x80
  place : Nat := 0
  start : Nat := 0
  weight : Nat := 1
  k : Nat := 36
  bias : Nat := 72
  placed : List Nat

/-- Read the digits of the steps. -/
def readDeltas (r : Scan) : List Char → Option (List Nat)
  | [] => if r.k = 36 then some r.placed else none
  | c :: ds => do
    let d ← digitValue? c
    let place := r.place + d * r.weight
    let t := threshold r.k r.bias
    if t ≤ d then
      readDeltas { r with place, weight := r.weight * (36 - t), k := r.k + 36 } ds
    else
      let count := r.placed.length + 1
      let n := r.n + place / count
      let place' := place % count
      readDeltas
        { n, place := place' + 1, start := place' + 1
          bias := adapt (place - r.start) count (r.start = 0)
          placed := r.placed.insertIdx place' n } ds

/-- The label that an ASCII form without its mark denotes. -/
def decode? (s : List Char) : Option (List Char) := do
  let (ascii, ds) := match Text.splitLast '-' s with
    | (some (c :: ascii), ds) => (c :: ascii, ds)
    | _ => ([], s)
  let points ← readDeltas { placed := ascii.map Char.toNat } ds
  points.mapM fun n => if n.isValidChar then some (Char.ofNat n) else none

end StartPage.Url.Punycode
