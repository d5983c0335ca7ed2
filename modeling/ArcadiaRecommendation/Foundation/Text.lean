import Mathlib.Data.List.Basic
import Mathlib.Data.List.DropRight

/-! Python string operations on Unicode text. Letter case is a parameter, since its
tables are part of the Unicode database and no statement here depends on them. -/
namespace ArcadiaRecommendation

class Casing where
  lower : String → String
  upper : String → String

/-- Letter case left as it is, for texts that are in lower case already. -/
abbrev Casing.unchanged : Casing := ⟨id,id⟩

namespace Text

/-- The characters `str.isspace` accepts, which `strip` and `split` remove. -/
def isSpace (char : Char) : Bool :=
  let code := char.toNat
  (9 ≤ code && code ≤ 13) || (28 ≤ code && code ≤ 32) || code = 0x85 || code = 0xa0 || code = 0x1680 ||
    (0x2000 ≤ code && code ≤ 0x200a) || code = 0x2028 || code = 0x2029 || code = 0x202f || code = 0x205f ||
    code = 0x3000

def trim (chars : List Char) : List Char :=
  ((chars.dropWhile isSpace).reverse.dropWhile isSpace).reverse

/-- `text.strip()` -/
def strip (text : String) : String := String.ofList (trim text.toList)

/-- `text.strip(unwanted)` -/
def stripChars (unwanted : List Char) (text : String) : String :=
  String.ofList (((text.toList.dropWhile (· ∈ unwanted)).reverse.dropWhile (· ∈ unwanted)).reverse)

/-- `text.rstrip(unwanted)` -/
def rstripChars (unwanted : List Char) (text : String) : String :=
  String.ofList (text.toList.rdropWhile (· ∈ unwanted))

/-- `text.split()` -/
def split (text : String) : List String :=
  ((text.toList.splitOnP isSpace).filter fun word => !word.isEmpty).map String.ofList

def words (chars : List Char) : List (List Char) := (chars.splitOnP isSpace).filter fun word => !word.isEmpty

/-- `text[:count]` -/
def firstChars (count : Nat) (text : String) : String := String.ofList (text.toList.take count)

example : strip " a  b\t" = "a  b" := by decide
example : split " Co  op \n" = ["Co","op"] := by decide

theorem trim_head (chars rest : List Char) (char : Char) (trimmed : trim chars = char :: rest) : isSpace char = false := by
  have front : trim chars <+: chars.dropWhile isSpace := List.rdropWhile_prefix isSpace _
  obtain ⟨more,whole⟩ := front
  rw [trimmed,List.cons_append] at whole
  have head := List.head?_dropWhile_not isSpace chars
  rw [← whole] at head
  exact head

theorem trim_eq_nil_iff (chars : List Char) : trim chars = [] ↔ ∀ char ∈ chars, isSpace char = true := by
  constructor
  · intro blank
    have all : ∀ char ∈ chars.dropWhile isSpace, isSpace char = true := List.rdropWhile_eq_nil_iff.mp blank
    have none : chars.dropWhile isSpace = [] := by
      cases kept : chars.dropWhile isSpace with
      | nil => rfl
      | cons char rest =>
        have head := List.head?_dropWhile_not isSpace chars
        rw [kept] at head all
        have refused : isSpace char = false := head
        rw [all char List.mem_cons_self] at refused
        cases refused
    exact List.dropWhile_eq_nil_iff.mp none
  · intro spaces
    unfold trim
    rw [List.dropWhile_eq_nil_iff.mpr spaces]
    rfl

theorem strip_eq_empty_iff (text : String) : strip text = "" ↔ ∀ char ∈ text.toList, isSpace char = true := by
  rw [← trim_eq_nil_iff,strip,← String.ofList_nil,String.ofList_inj]

theorem strip_firstChars (text : String) (count : Nat) (nonblank : strip text ≠ "") :
    strip (firstChars (count+1) (strip text)) ≠ "" := by
  have visible : trim text.toList ≠ [] := by
    intro none
    rw [strip,none] at nonblank
    exact nonblank rfl
  obtain ⟨char,rest,trimmed⟩ := List.exists_cons_of_ne_nil visible
  rw [ne_eq,strip_eq_empty_iff,firstChars,strip,String.toList_ofList,String.toList_ofList,trimmed,List.take_succ_cons]
  intro spaces
  have space := spaces char List.mem_cons_self
  rw [trim_head _ _ _ trimmed] at space
  cases space

theorem strip_strip (text : String) (nonblank : strip text ≠ "") : strip (strip text) ≠ "" := by
  have kept := strip_firstChars text (strip text).length nonblank
  have whole : firstChars ((strip text).length+1) (strip text) = strip text := by
    rw [firstChars,List.take_of_length_le (by rw [String.length_toList]; omega),String.ofList_toList]
  rwa [whole] at kept

theorem length_firstChars (count : Nat) (text : String) : (firstChars count text).length ≤ count := by
  rw [firstChars,String.length_ofList]
  exact List.length_take_le count _

theorem length_strip (text : String) : (strip text).length ≤ text.length := by
  have front : trim text.toList <+: text.toList.dropWhile isSpace := List.rdropWhile_prefix isSpace _
  rw [strip,String.length_ofList,← String.length_toList]
  exact front.length_le.trans (List.dropWhile_suffix isSpace).length_le

theorem spaced_induction {motive : List Char → Prop} (solid : ∀ chars, (∀ char ∈ chars, isSpace char = false) → motive chars)
    (spaced : ∀ left space right, isSpace space = true → motive left → motive right → motive (left ++ space :: right))
    (chars : List Char) : motive chars := by
  induction size : chars.length using Nat.strong_induction_on generalizing chars with
  | _ bound ih =>
    have whole := List.takeWhile_append_dropWhile (p := fun char => !isSpace char) (l := chars)
    have word : ∀ char ∈ chars.takeWhile fun char => !isSpace char, isSpace char = false := by
      intro char member
      simpa using List.mem_takeWhile_imp member
    cases later : chars.dropWhile fun char => !isSpace char with
    | nil =>
      rw [later,List.append_nil] at whole
      rw [← whole]
      exact solid _ word
    | cons space rest =>
      have head := List.head?_dropWhile_not (fun char => !isSpace char) chars
      rw [later] at head whole
      have shorter : rest.length < bound := by
        rw [← size,← whole,List.length_append,List.length_cons]
        omega
      rw [← whole]
      exact spaced _ space rest (by simpa using head) (solid _ word) (ih _ shorter rest rfl)

theorem words_nil : words [] = [] := by decide

theorem words_solid (chars : List Char) (solid : ∀ char ∈ chars, isSpace char = false) (some : chars ≠ []) :
    words chars = [chars] := by
  rw [words,List.splitOnP_eq_singleton solid,List.filter_cons_of_pos (by simpa using some),List.filter_nil]

theorem words_append (left right : List Char) (space : Char) (separates : isSpace space = true) :
    words (left ++ space :: right) = words left ++ words right := by
  rw [words,List.splitOnP_append_cons left right separates,List.filter_append]
  rfl

theorem words_eq_nil_iff (chars : List Char) : words chars = [] ↔ ∀ char ∈ chars, isSpace char = true := by
  induction chars using spaced_induction with
  | solid chars solid =>
    rcases eq_or_ne chars [] with rfl | some
    · exact iff_of_true words_nil fun char member => by cases member
    · obtain ⟨char,member⟩ := List.exists_mem_of_ne_nil chars some
      refine iff_of_false (fun none => ?_) fun spaces => ?_
      · rw [words_solid chars solid some] at none
        cases none
      · have space := spaces char member
        rw [solid char member] at space
        cases space
  | spaced left space right separates first second =>
    rw [words_append left right space separates,List.append_eq_nil_iff,first,second,List.forall_mem_append,
      List.forall_mem_cons]
    exact and_congr_right fun _ => (and_iff_right separates).symm

theorem mem_words (chars word : List Char) (member : word ∈ words chars) :
    word ≠ [] ∧ ∀ char ∈ word, isSpace char = false := by
  induction chars using spaced_induction with
  | solid chars solid =>
    rcases eq_or_ne chars [] with rfl | some
    · rw [words_nil] at member
      cases member
    · rw [words_solid chars solid some,List.mem_singleton] at member
      exact member ▸ ⟨some,solid⟩
  | spaced left space right separates first second =>
    rw [words_append left right space separates,List.mem_append] at member
    exact member.elim first second

theorem words_dropWhile (chars : List Char) : words (chars.dropWhile isSpace) = words chars := by
  induction chars with
  | nil => rfl
  | cons char rest ih =>
    by_cases space : isSpace char = true
    · rw [List.dropWhile_cons_of_pos space,ih]
      have front := words_append [] rest char space
      rw [words_nil,List.nil_append,List.nil_append] at front
      exact front.symm
    · rw [List.dropWhile_cons_of_neg space]

theorem words_rdropWhile (chars : List Char) : words (chars.rdropWhile isSpace) = words chars := by
  induction chars using List.reverseRecOn with
  | nil => rfl
  | append_singleton front char ih =>
    rw [List.rdropWhile_concat]
    split
    · rename_i space
      rw [ih,words_append front [] char space,words_nil,List.append_nil]
    · rfl

theorem words_trim (chars : List Char) : words (trim chars) = words chars :=
  (words_rdropWhile _).trans (words_dropWhile chars)

theorem split_words (text : String) : split text = (words text.toList).map String.ofList := rfl

theorem split_strip (text : String) : split (strip text) = split text := by
  rw [split_words,split_words,strip,String.toList_ofList,words_trim]

theorem mem_intercalate (separator : String) (pieces : List String) (char : Char)
    (member : char ∈ (separator.intercalate pieces).toList) :
    char ∈ separator.toList ∨ ∃ piece ∈ pieces, char ∈ piece.toList := by
  induction pieces with
  | nil =>
    rw [String.intercalate_nil,String.toList_empty] at member
    cases member
  | cons piece rest ih =>
    rcases eq_or_ne rest [] with rfl | more
    · rw [String.intercalate_singleton] at member
      exact .inr ⟨piece,List.mem_cons_self,member⟩
    rw [String.intercalate_cons_of_ne_nil more,String.toList_append,String.toList_append,List.mem_append,
      List.mem_append] at member
    rcases member with (here | between) | later
    · exact .inr ⟨piece,List.mem_cons_self,here⟩
    · exact .inl between
    · rcases ih later with between | ⟨other,inside,there⟩
      · exact .inl between
      · exact .inr ⟨other,List.mem_cons_of_mem piece inside,there⟩

theorem intercalate_eq_empty_iff (separator : String) (pieces : List String) (some : ∀ piece ∈ pieces, piece ≠ "") :
    separator.intercalate pieces = "" ↔ pieces = [] := by
  cases pieces with
  | nil => exact iff_of_true String.intercalate_nil rfl
  | cons piece rest =>
    refine iff_of_false (fun empty => some piece List.mem_cons_self ?_) (List.cons_ne_nil piece rest)
    rcases eq_or_ne rest [] with rfl | more
    · rwa [String.intercalate_singleton] at empty
    · rw [String.intercalate_cons_of_ne_nil more,String.append_eq_empty_iff,String.append_eq_empty_iff] at empty
      exact empty.1.1

end Text
end ArcadiaRecommendation
