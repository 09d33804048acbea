namespace Rollout.Text

-- Characters that count as blank: Unicode's White_Space, which is wider than ASCII (it holds the
-- no-break, ideographic and typographic spaces and both separators) and excludes the zero-width
-- space and the byte order mark.
def isBlankChar (c : Char) : Bool :=
  let n := c.toNat
  (9 ≤ n && n ≤ 13) || n = 0x20 || n = 0x85 || n = 0xA0 || n = 0x1680 || (0x2000 ≤ n && n ≤ 0x200A)
    || n = 0x2028 || n = 0x2029 || n = 0x202F || n = 0x205F || n = 0x3000

-- A text is blank if nothing but blank characters occur in it; the empty text is blank.
def isBlank (s : String) : Bool :=
  s.toList.all isBlankChar

-- The characters left after blanks are cut off at both ends.
def trimChars (cs : List Char) : List Char :=
  ((cs.dropWhile isBlankChar).reverse.dropWhile isBlankChar).reverse

def trim (s : String) : String :=
  String.ofList (trimChars s.toList)

-- An optional text counts as given only if it is not blank; what is given is used trimmed.
def given? (s : Option String) : Option String :=
  (s.map trim).filter (!isBlank ·)

-- An optional text that is kept exactly as written, unless it is blank.
def verbatim? (s : Option String) : Option String :=
  s.filter (!isBlank ·)

@[simp]
theorem isBlank_empty : isBlank "" = true := 
  rfl

theorem isBlank_iff {s : String} : isBlank s ↔ ∀ c ∈ s.toList, isBlankChar c := by
  simp [isBlank]

theorem toList_trim (s : String) : (trim s).toList = trimChars s.toList := 
  String.toList_ofList

end Rollout.Text
