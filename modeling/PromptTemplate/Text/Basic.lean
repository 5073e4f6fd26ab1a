namespace PromptTemplate

abbrev Text := List Char

namespace Text

def isBlank (c : Char) : Bool :=
  let n := c.toNat
  (0x09 ≤ n && n ≤ 0x0d) || (0x1c ≤ n && n ≤ 0x20) || n == 0x85 || n == 0xa0 || n == 0x1680 ||
    (0x2000 ≤ n && n ≤ 0x200a) || n == 0x2028 || n == 0x2029 || n == 0x202f || n == 0x205f ||
    n == 0x3000

def isSeparator (c : Char) : Bool :=
  0x1c ≤ c.toNat && c.toNat ≤ 0x1f

def inRanges (n : Nat) : List (Nat × Nat) → Bool
  | [] => false
  | (lo, hi) :: r => if n < lo then false else if n ≤ hi then true else inRanges n r

def trimWhile (p : Char → Bool) (t : Text) : Text :=
  ((t.dropWhile p).reverse.dropWhile p).reverse

def strip (t : Text) : Text :=
  trimWhile isBlank t

def stripNumeral (t : Text) : Text :=
  trimWhile (fun c => isBlank c && !isSeparator c) t

def stripEnd (t : Text) : Text :=
  (t.reverse.dropWhile isBlank).reverse

def cut? (c : Char) : Text → Option (Text × Text)
  | [] => none
  | d :: r => if d = c then some ([], r) else (cut? c r).map fun (a, b) => (d :: a, b)

def pieces (p : Char → Bool) : Text → List Text
  | [] => [[]]
  | c :: r =>
      match pieces p r with
      | [] => [[]]
      | w :: ws => if p c then [] :: w :: ws else (c :: w) :: ws

theorem pieces_ne_nil (p : Char → Bool) (t : Text) : pieces p t ≠ [] := by
  induction t with
  | nil => simp [pieces]
  | cons c r ih =>
      simp only [pieces]
      cases h : pieces p r with
      | nil => exact absurd h ih
      | cons w ws => by_cases hc : p c <;> simp [hc]

def lines (t : Text) : List Text :=
  pieces (· == '\n') t

def unlines (ls : List Text) : Text :=
  List.intercalate ['\n'] ls

def join (sep : Text) (parts : List Text) : Text :=
  List.intercalate sep parts

def after? : Text → Text → Option Text
  | [], t => some t
  | _ :: _, [] => none
  | a :: p, c :: r => if a = c then after? p r else none

def ofNat (n : Nat) : Text :=
  Nat.toDigits 10 n

def ofNatPadded (width n : Nat) : Text :=
  let digits := ofNat n
  List.replicate (width - digits.length) '0' ++ digits

-- The program writes no whole number of more than 4300 digits (`maxDigits`). This function does, so
-- what is proved of it holds of the program for numbers between `-10 ^ 4300` and `10 ^ 4300`.
def ofInt : Int → Text
  | .ofNat n => ofNat n
  | .negSucc n => '-' :: ofNat (n + 1)

def ofHex (width n : Nat) : Text :=
  let digits := Nat.toDigits 16 n
  List.replicate (width - digits.length) '0' ++ digits

def total (measure : Char → Nat) (t : Text) : Nat :=
  t.foldl (fun n c => n + measure c) 0

def lt : Text → Text → Bool
  | _, [] => false
  | [], _ :: _ => true
  | a :: r, b :: s => a.toNat < b.toNat || (a = b && lt r s)

def le (a b : Text) : Bool :=
  !lt b a

def distinct (ts : List Text) : List Text :=
  ts.foldl (fun acc t => if acc.contains t then acc else acc ++ [t]) []

def sorted (ts : List Text) : List Text :=
  ts.mergeSort le

end Text

end PromptTemplate
