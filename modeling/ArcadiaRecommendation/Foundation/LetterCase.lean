import ArcadiaRecommendation.Foundation.Text

/-! `str.lower` as it walks over the tables of the Unicode database. A capital sigma is written by its
place in the word, which no space reaches across, so a text is put in lower case word by word. -/
namespace ArcadiaRecommendation
open Text

structure CaseTables where
  lowerFull : Char → List Char
  cased : Char → Bool
  caseIgnorable : Char → Bool

namespace CaseTables
variable (tables : CaseTables)

/-- Whether a capital sigma ends its word. The characters before it come in reverse. -/
def finalSigma (before after : List Char) : Bool :=
  (before.dropWhile tables.caseIgnorable).head?.any tables.cased &&
    !(after.dropWhile tables.caseIgnorable).head?.any tables.cased

def mapped (before : List Char) (char : Char) (after : List Char) : List Char :=
  if char = 'Σ' then [if tables.finalSigma before after then 'ς' else 'σ'] else tables.lowerFull char

def lowered (before : List Char) : List Char → List Char
  | [] => []
  | char :: after => tables.mapped before char after ++ lowered (char :: before) after

def Settled (char : Char) : Prop := char ≠ 'Σ' ∧ tables.lowerFull char = [char]

/-- The properties of the database that words rest on. -/
structure Lawful : Prop where
  space : ∀ char, isSpace char = true →
    tables.lowerFull char = [char] ∧ tables.cased char = false ∧ tables.caseIgnorable char = false
  visible : ∀ char, isSpace char = false →
    tables.lowerFull char ≠ [] ∧ ∀ made ∈ tables.lowerFull char, isSpace made = false
  settled : ∀ char, ∀ made ∈ tables.lowerFull char, tables.Settled made
  fixed : ∀ char ∈ ['-','σ','ς'], tables.lowerFull char = [char]

namespace Lawful
variable {tables} (lawful : tables.Lawful)
include lawful

theorem mapped_space (before after : List Char) (space : Char) (separates : isSpace space = true) :
    tables.mapped before space after = [space] := by
  rw [mapped,if_neg,(lawful.space space separates).1]
  intro same
  rw [same] at separates
  exact absurd separates (by decide)

theorem mapped_visible (before after : List Char) (char : Char) (visible : isSpace char = false) :
    tables.mapped before char after ≠ [] ∧ ∀ made ∈ tables.mapped before char after, isSpace made = false := by
  unfold mapped
  split
  · refine ⟨List.cons_ne_nil _ _,fun made member => ?_⟩
    rw [List.mem_singleton.mp member]
    split <;> decide
  · exact lawful.visible char visible

theorem mapped_settled (before after : List Char) (char : Char) :
    ∀ made ∈ tables.mapped before char after, tables.Settled made := by
  intro made member
  unfold mapped at member
  split at member
  · rw [List.mem_singleton.mp member]
    split
    · exact ⟨by decide,lawful.fixed 'ς' (by simp)⟩
    · exact ⟨by decide,lawful.fixed 'σ' (by simp)⟩
  · exact lawful.settled char made member

theorem lowered_settled (before chars : List Char) : ∀ made ∈ tables.lowered before chars, tables.Settled made := by
  induction chars generalizing before with
  | nil =>
    intro made member
    cases member
  | cons char after ih =>
    intro made member
    rcases List.mem_append.mp member with here | later
    · exact lawful.mapped_settled before after char made here
    · exact ih (char :: before) made later

theorem lowered_visible (before chars : List Char) (visible : ∀ char ∈ chars, isSpace char = false) :
    ∀ made ∈ tables.lowered before chars, isSpace made = false := by
  induction chars generalizing before with
  | nil =>
    intro made member
    cases member
  | cons char after ih =>
    obtain ⟨first,rest⟩ := List.forall_mem_cons.mp visible
    intro made member
    rcases List.mem_append.mp member with here | later
    · exact (lawful.mapped_visible before after char first).2 made here
    · exact ih (char :: before) rest made later

theorem lowered_ne_nil (before chars : List Char) (some : chars ≠ []) (visible : ∀ char ∈ chars, isSpace char = false) :
    tables.lowered before chars ≠ [] := by
  obtain ⟨char,after,rfl⟩ := List.exists_cons_of_ne_nil some
  intro none
  exact (lawful.mapped_visible before after char (visible char List.mem_cons_self)).1 (List.append_eq_nil_iff.mp none).1

theorem head_cased (near far : List Char) (space : Char) (separates : isSpace space = true) :
    ((near ++ space :: far).dropWhile tables.caseIgnorable).head?.any tables.cased =
      (near.dropWhile tables.caseIgnorable).head?.any tables.cased := by
  obtain ⟨_,uncased,stops⟩ := lawful.space space separates
  rw [List.dropWhile_append]
  cases near.dropWhile tables.caseIgnorable with
  | nil => simp [stops,uncased]
  | cons char rest => rfl

theorem lowered_before (near far chars : List Char) (space : Char) (separates : isSpace space = true) :
    tables.lowered (near ++ space :: far) chars = tables.lowered near chars := by
  induction chars generalizing near with
  | nil => rfl
  | cons char after ih =>
    unfold lowered
    rw [← List.cons_append,ih,mapped,mapped,finalSigma,finalSigma,lawful.head_cased near far space separates]

theorem lowered_append (before left right : List Char) (space : Char) (separates : isSpace space = true) :
    tables.lowered before (left ++ space :: right) = tables.lowered before left ++ space :: tables.lowered [] right := by
  induction left generalizing before with
  | nil =>
    show tables.mapped before space right ++ tables.lowered (space :: before) right = space :: tables.lowered [] right
    rw [lawful.mapped_space before right space separates]
    exact congrArg (List.cons space) (lawful.lowered_before [] before right space separates)
  | cons char after ih =>
    rw [List.cons_append,lowered,lowered,ih,mapped,mapped,finalSigma,finalSigma,
      lawful.head_cased after right space separates,List.append_assoc]

theorem words_lowered (chars : List Char) : words (tables.lowered [] chars) = (words chars).map (tables.lowered []) := by
  induction chars using spaced_induction with
  | solid chars solid =>
    rcases eq_or_ne chars [] with rfl | some
    · rfl
    · rw [words_solid chars solid some,List.map_singleton]
      exact words_solid _ (lawful.lowered_visible [] chars solid) (lawful.lowered_ne_nil [] chars some solid)
  | spaced left space right separates first second =>
    rw [lawful.lowered_append [] left right space separates,words_append _ _ space separates,
      words_append _ _ space separates,List.map_append,first,second]

end Lawful

theorem lowered_of_settled (before chars : List Char) (settled : ∀ char ∈ chars, tables.Settled char) :
    tables.lowered before chars = chars := by
  induction chars generalizing before with
  | nil => rfl
  | cons char after ih =>
    obtain ⟨first,rest⟩ := List.forall_mem_cons.mp settled
    rw [lowered,ih _ rest,mapped,if_neg first.1,first.2]
    rfl

end CaseTables

class UnicodeCasing extends Casing where
  tables : CaseTables
  lawful : tables.Lawful
  lower_eq : ∀ text, lower text = String.ofList (tables.lowered [] text.toList)

namespace UnicodeCasing
variable [UnicodeCasing]

theorem toList_lower (text : String) : (Casing.lower text).toList = tables.lowered [] text.toList := by
  rw [lower_eq,String.toList_ofList]

theorem lower_ofList (chars : List Char) : Casing.lower (String.ofList chars) = String.ofList (tables.lowered [] chars) := by
  rw [lower_eq,String.toList_ofList]

/-- The words of a text in lower case are its words in lower case. -/
theorem split_lower (text : String) : split (Casing.lower text) = (split text).map Casing.lower := by
  rw [split_words,split_words,toList_lower,lawful.words_lowered,List.map_map,List.map_map]
  exact List.map_congr_left fun word _ => (lower_ofList word).symm

end UnicodeCasing
end ArcadiaRecommendation
