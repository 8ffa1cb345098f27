import ApiTools.Text.Case.Table
import ApiTools.Text.Ranges

/-!
# Letter case

Upper, lower and title case of a text, by the full mappings of Unicode: a letter may become several
(`ß` is `SS` in capitals), and a capital sigma at the end of a word has a lower case of its own.
-/

namespace ApiTools.Text

/-! ## Single characters -/

/-- The other case of a character by a table of runs, if a run covers it. -/
def CaseRun.find? (runs : List CaseRun) (c : Char) : Option Char :=
  (runs.find? fun run =>
      run.first ≤ c.toNat && c.toNat ≤ run.last && (c.toNat - run.first) % run.step == 0).map
    fun run => Char.ofNat (Int.toNat ((c.toNat : Int) + run.shift))

/-- The other case of a character: from the list of exceptions, else from the runs, else itself. -/
def otherCase (special : List (Nat × List Nat)) (runs : List CaseRun) (c : Char) : List Char :=
  match special.lookup c.toNat with
  | some form => form.map Char.ofNat
  | none => [(CaseRun.find? runs c).getD c]

/-- The upper case of a character. -/
def upperForm (c : Char) : List Char :=
  otherCase upperSpecial upperRuns c

/-- The title case of a character. -/
def titleForm (c : Char) : List Char :=
  otherCase titleSpecial titleRuns c

/-- The lower case of a character, wherever it stands. -/
def lowerForm (c : Char) : List Char :=
  otherCase [(0x130, [0x69, 0x307])] lowerRuns c

/-- The character is a letter with a case. -/
def isCased (c : Char) : Bool :=
  inRanges casedRanges c

/-- The character is looked through when the neighbours of a letter are sought. -/
def isCaseIgnorable (c : Char) : Bool :=
  inRanges caseIgnorableRanges c

/-- The nearest character that is not looked through has a case. -/
def meetsCased (text : List Char) : Bool :=
  ((text.dropWhile isCaseIgnorable).head?.map isCased).getD false

/-- The lower case of `c` between the text `before` it, nearest character first, and the text
`after` it: a capital sigma that ends a word becomes a final sigma. -/
def lowerBetween (before : List Char) (c : Char) (after : List Char) : List Char :=
  if c = 'Σ' then
    if meetsCased before && !meetsCased after then ['ς'] else ['σ']
  else
    lowerForm c

/-! ## Texts -/

/-- The text in upper case. -/
def upper (text : List Char) : List Char :=
  text.flatMap upperForm

/-- The lower case of a text that follows `before`, whose nearest character comes first. -/
def lowerAfter : List Char → List Char → List Char
  | _, [] => []
  | before, c :: rest => lowerBetween before c rest ++ lowerAfter (c :: before) rest

/-- The text in lower case. -/
def lower (text : List Char) : List Char :=
  lowerAfter [] text

/-- The first character in title case and the rest in lower case. -/
def capitalize : List Char → List Char
  | [] => []
  | c :: rest => titleForm c ++ lowerAfter [c] rest

/-- Title case of a text that follows `before`: a letter after a letter is lower, any other is
title case. -/
def titleAfter : List Char → List Char → List Char
  | _, [] => []
  | before, c :: rest =>
    let form :=
      if (before.head?.map isCased).getD false then lowerBetween before c rest else titleForm c
    form ++ titleAfter (c :: before) rest

/-- Every word in title case; a word begins after any character without case. -/
def titleCase (text : List Char) : List Char :=
  titleAfter [] text

end ApiTools.Text
