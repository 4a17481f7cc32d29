namespace Switchyard.Text

def newline : UInt8 := 10

def carriageReturn : UInt8 := 13

/-- The first line, with its newline if it has one, and the bytes after it. -/
def splitLine : List UInt8 → List UInt8 × List UInt8
  | [] => ([], [])
  | b :: bs =>
    if b == newline then ([b], bs)
    else
      let (line, rest) := splitLine bs
      (b :: line, rest)

theorem splitLine_length (bs : List UInt8) :
    (splitLine bs).1.length + (splitLine bs).2.length = bs.length := by
  induction bs with
  | nil => rfl
  | cons b bs ih =>
    by_cases h : b == newline
    · simp [splitLine, h]
      omega
    · simp [splitLine, h]
      omega

theorem splitLine_rest_lt (b : UInt8) (bs : List UInt8) :
    (splitLine (b :: bs)).2.length < (b :: bs).length := by
  have h := splitLine_length (b :: bs)
  have h' : 0 < (splitLine (b :: bs)).1.length := by
    by_cases h : b == newline <;> simp [splitLine, h]
  omega

def chomp (line : List UInt8) : List UInt8 :=
  match line.reverse with
  | b :: bs =>
    if b == newline then (if bs.head? == some carriageReturn then bs.drop 1 else bs).reverse
    else line
  | [] => []

def lines : List UInt8 → List (List UInt8)
  | [] => []
  | b :: bs => chomp (splitLine (b :: bs)).1 :: lines (splitLine (b :: bs)).2
termination_by bytes => bytes.length
decreasing_by exact splitLine_rest_lt b bs

end Switchyard.Text
