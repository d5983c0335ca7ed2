import ArcadiaRecommendation.Domain.GameProfile
import ArcadiaRecommendation.Foundation.LetterCase
import Mathlib.Data.Finset.Dedup

/-! What a sparse embedding keeps of the labels it is made from: which words they are, and of which
kind. -/
namespace ArcadiaRecommendation

/-- Mappings are equal in whatever order they hold their entries. -/
def Embedding.Same {R : Type} [Scalar R] (first second : Embedding R) : Prop :=
  ∀ name, first.weights.get name = second.weights.get name

def normalForm [Casing] (label : String) : String := "-".intercalate ((Text.split label).map Casing.lower)

def normalForms [Casing] (labels : List String) : Finset String :=
  ((labels.filter fun label => Text.strip label ≠ "").map normalForm).toFinset

private theorem mem_normalForms [Casing] (labels : List String) (form : String) :
    form ∈ normalForms labels ↔ ∃ label ∈ labels, Text.strip label ≠ "" ∧ normalForm label = form := by
  unfold normalForms
  simp only [List.mem_toFinset,List.mem_map,List.mem_filter,decide_eq_true_eq,and_assoc]

private theorem token_inj (kind first second : String) :
    kind ++ ":" ++ first = kind ++ ":" ++ second ↔ first = second :=
  String.append_right_inj _

private theorem genre_ne_tag (first second : String) : "genre" ++ ":" ++ first ≠ "tag" ++ ":" ++ second := by
  intro same
  have heads := congrArg (fun text => text.toList.head?) same
  simp only [String.toList_append] at heads
  have genre : ("genre".toList ++ ":".toList ++ first.toList).head? = some 'g' := rfl
  rw [genre] at heads
  cases heads

section
variable [UnicodeCasing]
open UnicodeCasing

/-- The code strips the label first and splits it last. -/
theorem normalised_eq (raw : String) : "-".intercalate (Text.split (Casing.lower (Text.strip raw))) = normalForm raw := by
  rw [split_lower,Text.split_strip]
  rfl

private theorem lower_word (label word : String) (member : word ∈ (Text.split label).map Casing.lower) :
    word ≠ "" ∧ ∀ char ∈ word.toList, Text.isSpace char = false ∧ tables.Settled char := by
  rw [Text.split_words,List.map_map] at member
  obtain ⟨chars,inside,rfl⟩ := List.mem_map.mp member
  obtain ⟨some,visible⟩ := Text.mem_words _ chars inside
  have letters : (Casing.lower (String.ofList chars)).toList = tables.lowered [] chars := by
    rw [toList_lower,String.toList_ofList]
  rw [Function.comp_apply,← String.toList_eq_nil_iff.ne,letters]
  exact ⟨lawful.lowered_ne_nil [] chars some visible,fun char here =>
    ⟨lawful.lowered_visible [] chars visible char here,lawful.lowered_settled [] chars char here⟩⟩

private theorem normalForm_eq_empty_iff (label : String) : normalForm label = "" ↔ Text.strip label = "" := by
  rw [normalForm,Text.intercalate_eq_empty_iff _ _ fun word member => (lower_word label word member).1,List.map_eq_nil_iff,
    Text.split_words,List.map_eq_nil_iff,Text.words_eq_nil_iff,Text.strip_eq_empty_iff]

private theorem normalForm_chars (label : String) :
    ∀ char ∈ (normalForm label).toList, Text.isSpace char = false ∧ tables.Settled char := by
  intro char member
  rcases Text.mem_intercalate _ _ char member with hyphen | ⟨word,inside,here⟩
  · rw [List.mem_singleton.mp hyphen]
    exact ⟨by decide,by decide,lawful.fixed '-' (by simp)⟩
  · exact (lower_word label word inside).2 char here

private theorem normalForm_normalForm (label : String) : normalForm (normalForm label) = normalForm label := by
  have chars := normalForm_chars label
  rcases eq_or_ne (normalForm label) "" with empty | some
  · rw [empty,normalForm_eq_empty_iff]
    decide
  · have word : Text.split (normalForm label) = [normalForm label] := by
      rw [Text.split_words,Text.words_solid _ (fun char member => (chars char member).1) (String.toList_eq_nil_iff.not.mpr some),
        List.map_singleton,String.ofList_toList]
    have settled : Casing.lower (normalForm label) = normalForm label := by
      rw [lower_eq,tables.lowered_of_settled [] _ fun char member => (chars char member).2,String.ofList_toList]
    rw [normalForm,word,List.map_singleton,settled,String.intercalate_singleton]

theorem feature_ok_iff (kind raw name : String) : feature kind raw = .ok name ↔
    Text.strip raw ≠ "" ∧ name = kind ++ ":" ++ normalForm raw ∧ name.length ≤ Limits.maxFeatureChars := by
  unfold feature
  rw [normalised_eq,← (normalForm_eq_empty_iff raw).ne]
  dsimp only
  split
  · rename_i blank
    exact iff_of_false (fun made => by cases made) fun named => named.1 blank
  rename_i some
  split
  · rename_i long
    refine iff_of_false (fun made => by cases made) fun named => ?_
    rw [named.2.1] at named
    exact absurd named.2.2 (Nat.not_le.mpr long)
  · rename_i short
    rw [Except.ok.injEq]
    constructor
    · rintro rfl
      exact ⟨some,rfl,Nat.not_lt.mp short⟩
    · exact fun named => named.2.1.symm

private theorem feature_congr (kind first second : String)
    (same : Text.split (Casing.lower first) = Text.split (Casing.lower second)) : feature kind first = feature kind second := by
  have form : normalForm first = normalForm second := by
    rw [normalForm,← split_lower,same,split_lower]
    rfl
  unfold feature
  rw [normalised_eq,normalised_eq,form]

private theorem feature_normalForm (kind label : String) : feature kind (normalForm label) = feature kind label := by
  unfold feature
  rw [normalised_eq,normalised_eq,normalForm_normalForm]

private theorem labelled_iff (kind : String) (labels : List String) (accepted : Acceptable kind labels)
    (name : String) : (∃ label ∈ labels, Text.strip label ≠ "" ∧ feature kind label = .ok name) ↔
      ∃ form ∈ normalForms labels, name = kind ++ ":" ++ form := by
  constructor
  · rintro ⟨label,member,visible,made⟩
    exact ⟨normalForm label,(mem_normalForms labels _).mpr ⟨label,member,visible,rfl⟩,((feature_ok_iff kind label name).mp made).2.1⟩
  · rintro ⟨form,member,rfl⟩
    obtain ⟨label,inside,visible,rfl⟩ := (mem_normalForms labels form).mp member
    obtain ⟨name,made⟩ := accepted label inside visible
    rw [← ((feature_ok_iff kind label name).mp made).2.1]
    exact ⟨label,inside,visible,made⟩

def TooLong (kind : String) (labels : List String) : Prop :=
  ∃ label ∈ labels, Text.strip label ≠ "" ∧ Limits.maxFeatureChars < (kind ++ ":" ++ normalForm label).length

private theorem acceptable_iff (kind : String) (labels : List String) :
    Acceptable kind labels ↔ ¬TooLong kind labels := by
  unfold Acceptable TooLong
  push Not
  apply forall₃_congr
  intro label member visible
  constructor
  · rintro ⟨name,made⟩
    obtain ⟨_,rfl,short⟩ := (feature_ok_iff kind label name).mp made
    exact short
  · exact fun short => ⟨_,(feature_ok_iff kind label _).mpr ⟨visible,rfl,short⟩⟩

variable {R : Type} [Scalar R]

private theorem embed_raises_iff (genres tags : List String) :
    (∃ rule, (embed genres tags : Except InvariantViolation (Embedding R)) = .error rule) ↔
      TooLong "genre" genres ∨ TooLong "tag" tags := by
  have total := embed_total_iff (R := R) genres tags
  rw [acceptable_iff,acceptable_iff,← not_or] at total
  rw [← not_iff_not,← total]
  cases (embed genres tags : Except InvariantViolation (Embedding R)) with
  | error rule => simp
  | ok embedding => simp

section
variable (unit : Scalar.isZero (Scalar.literal 1 : R) = false) (genres tags : List String) (embedding : Embedding R)
  (embedded : embed genres tags = .ok embedding)
include unit embedded

private theorem embed_get (name : String) (weight : R) :
    embedding.weights.get name = some weight ↔ weight = Scalar.literal 1 ∧
    ((∃ form ∈ normalForms genres, name = "genre" ++ ":" ++ form) ∨ ∃ form ∈ normalForms tags, name = "tag" ++ ":" ++ form) := by
  obtain ⟨genre,tag⟩ := (embed_total_iff (R := R) genres tags).mp ⟨embedding,embedded⟩
  obtain ⟨features,rfl,named⟩ := embed_of genres tags embedding embedded
  rw [Embedding.get_of unit,← labelled_iff "genre" genres genre,← labelled_iff "tag" tags tag,← named name]
  split
  · rename_i member
    rw [Option.some.injEq,eq_comm,and_iff_left member]
  · rename_i absent
    exact iff_of_false (fun found => by cases found) fun both => absent both.2

private theorem embed_genre (form : String) :
    embedding.weights.get ("genre" ++ ":" ++ form) = some (Scalar.literal 1) ↔ form ∈ normalForms genres := by
  rw [embed_get unit genres tags embedding embedded,and_iff_right rfl]
  constructor
  · rintro (⟨other,member,same⟩ | ⟨other,_,same⟩)
    · rwa [(token_inj "genre" form other).mp same]
    · exact absurd same (genre_ne_tag form other)
  · exact fun member => .inl ⟨form,member,rfl⟩

private theorem embed_tag (form : String) :
    embedding.weights.get ("tag" ++ ":" ++ form) = some (Scalar.literal 1) ↔ form ∈ normalForms tags := by
  rw [embed_get unit genres tags embedding embedded,and_iff_right rfl]
  constructor
  · rintro (⟨other,_,same⟩ | ⟨other,member,same⟩)
    · exact absurd same.symm (genre_ne_tag other form)
    · rwa [(token_inj "tag" form other).mp same]
  · exact fun member => .inr ⟨form,member,rfl⟩

private theorem embed_bounded (name : String) (weight : R) (found : embedding.weights.get name = some weight) :
    weight = Scalar.literal 1 ∧ name.length ≤ Limits.maxFeatureChars := by
  obtain ⟨features,rfl,named⟩ := embed_of genres tags embedding embedded
  rw [Embedding.get_of unit] at found
  split at found
  · rename_i member
    refine ⟨(Option.some.inj found).symm,?_⟩
    rcases (named name).mp member with ⟨label,_,_,made⟩ | ⟨label,_,_,made⟩
    · exact ((feature_ok_iff "genre" label name).mp made).2.2
    · exact ((feature_ok_iff "tag" label name).mp made).2.2
  · cases found

end

private theorem embed_same_iff (unit : Scalar.isZero (Scalar.literal 1 : R) = false)
    (genres tags others labels : List String) (first second : Embedding R) (left : embed genres tags = .ok first)
    (right : embed others labels = .ok second) :
    first.Same second ↔ normalForms genres = normalForms others ∧ normalForms tags = normalForms labels := by
  constructor
  · intro same
    constructor
    · ext form
      rw [← embed_genre unit genres tags first left,same,embed_genre unit others labels second right]
    · ext form
      rw [← embed_tag unit genres tags first left,same,embed_tag unit others labels second right]
  · rintro ⟨genre,tag⟩ name
    ext weight
    rw [embed_get unit genres tags first left,embed_get unit others labels second right,genre,tag]

/-- Two games have the same sparse embedding exactly when they have the same genres and the same tags, as words in
lower case. A label of any kind and form makes at most one feature, of weight one, and only one that is too long is
refused. -/
theorem sparse_embedding_canonical (unit : Scalar.isZero (Scalar.literal 1 : R) = false) :
    (∀ (genres tags others labels : List String) (first second : Embedding R),
      embed genres tags = .ok first → embed others labels = .ok second →
        (first.Same second ↔ normalForms genres = normalForms others ∧ normalForms tags = normalForms labels)) ∧
    (∀ (genres tags : List String) (embedding : Embedding R), embed genres tags = .ok embedding →
      ∀ name weight, embedding.weights.get name = some weight →
        weight = Scalar.literal 1 ∧ name.length ≤ Limits.maxFeatureChars) ∧
    (∀ genres tags : List String, (∃ rule, (embed genres tags : Except InvariantViolation (Embedding R)) = .error rule) ↔
      TooLong "genre" genres ∨ TooLong "tag" tags) ∧
    (∀ genre tag first second : String, feature "genre" genre = .ok first → feature "tag" tag = .ok second → first ≠ second) ∧
    (∀ kind first second : String, Text.split (Casing.lower first) = Text.split (Casing.lower second) →
      feature kind first = feature kind second) ∧
    ∀ kind label : String, normalForm (normalForm label) = normalForm label ∧
      feature kind (normalForm label) = feature kind label := by
  refine ⟨embed_same_iff unit,embed_bounded unit,embed_raises_iff,?_,feature_congr,fun kind label =>
    ⟨normalForm_normalForm label,feature_normalForm kind label⟩⟩
  intro genre tag first second left right
  rw [((feature_ok_iff "genre" genre first).mp left).2.1,((feature_ok_iff "tag" tag second).mp right).2.1]
  exact genre_ne_tag _ _

end

section

/-- The letters of ASCII, and a sigma. -/
def asciiTables : CaseTables where
  lowerFull char := if char = 'Σ' then ['σ'] else if char.isUpper then [char.toLower] else [char]
  cased char := char.isUpper || char.isLower
  caseIgnorable _ := false

private theorem of_range (holds : Char → Prop) (low high : Nat) (char : Char) (above : low ≤ char.toNat)
    (below : char.toNat < high) (each : ∀ code < high, low ≤ code → holds (Char.ofNat code)) : holds char := by
  rw [← Char.ofNat_toNat char]
  exact each char.toNat below above

private theorem upper_letter (char : Char) (upper : char.isUpper = true) : Text.isSpace char = false ∧
    Text.isSpace char.toLower = false ∧ char.toLower ≠ 'Σ' ∧ char.toLower.isUpper = false := by
  have bounds : 'A'.val ≤ char.val ∧ char.val ≤ 'Z'.val := of_decide_eq_true upper
  exact of_range (fun char => Text.isSpace char = false ∧ Text.isSpace char.toLower = false ∧ char.toLower ≠ 'Σ' ∧
    char.toLower.isUpper = false) 65 91 char bounds.1 (Nat.lt_succ_of_le bounds.2) (by decide)

private theorem lower_letter (char : Char) (lower : char.isLower = true) : Text.isSpace char = false := by
  obtain ⟨above,below⟩ := Bool.and_eq_true_iff.mp lower
  exact of_range (fun char => Text.isSpace char = false) 97 123 char (of_decide_eq_true above)
    (Nat.lt_succ_of_le (of_decide_eq_true below)) (by decide)

private theorem asciiTables_lawful : asciiTables.Lawful where
  space char separates := by
    have upper : char.isUpper = false := by
      apply Bool.eq_false_of_not_eq_true
      intro upper
      rw [(upper_letter char upper).1] at separates
      cases separates
    have lower : char.isLower = false := by
      apply Bool.eq_false_of_not_eq_true
      intro lower
      rw [lower_letter char lower] at separates
      cases separates
    have other : char ≠ 'Σ' := by
      rintro rfl
      exact absurd separates (by decide)
    refine ⟨?_,?_,rfl⟩
    · simp [asciiTables,other,upper]
    · simp [asciiTables,upper,lower]
  visible char visible := by
    dsimp only [asciiTables]
    split
    · exact ⟨List.cons_ne_nil _ _,List.forall_mem_singleton.mpr (by decide)⟩
    split
    · rename_i upper
      exact ⟨List.cons_ne_nil _ _,List.forall_mem_singleton.mpr (upper_letter char upper).2.1⟩
    · exact ⟨List.cons_ne_nil _ _,List.forall_mem_singleton.mpr visible⟩
  settled char := by
    dsimp only [asciiTables]
    split
    · exact List.forall_mem_singleton.mpr ⟨by decide,by decide⟩
    split
    · rename_i upper
      obtain ⟨_,_,other,settled⟩ := upper_letter char upper
      exact List.forall_mem_singleton.mpr ⟨other,by simp [other,settled]⟩
    · rename_i other settled
      exact List.forall_mem_singleton.mpr ⟨other,by simp [other,settled]⟩
  fixed :=
    List.forall_mem_cons.mpr ⟨rfl,List.forall_mem_cons.mpr ⟨rfl,List.forall_mem_singleton.mpr rfl⟩⟩

@[reducible] def UnicodeCasing.ascii : UnicodeCasing where
  lower text := String.ofList (asciiTables.lowered [] text.toList)
  upper := String.toUpper
  tables := asciiTables
  lawful := asciiTables_lawful
  lower_eq _ := rfl

attribute [local instance] UnicodeCasing.ascii

theorem sparse_embedding_canonical_spelled : ∃ first second : Embedding ℚ,
    embed ["Co  Op"," RPG","rpg"] ["Indie",""] = .ok first ∧ embed ["RPG","co op"] ["indie"] = .ok second ∧
      first.Same second := by
  have left : embed ["Co  Op"," RPG","rpg"] ["Indie",""] =
      .ok (.of ["genre:co-op","genre:rpg","genre:rpg","tag:indie"] : Embedding ℚ) := by decide +kernel
  have right : embed ["RPG","co op"] ["indie"] = .ok (.of ["genre:rpg","genre:co-op","tag:indie"] : Embedding ℚ) := by
    decide +kernel
  exact ⟨_,_,left,right,((sparse_embedding_canonical (by decide)).1 _ _ _ _ _ _ left right).mpr ⟨by decide +kernel,by decide +kernel⟩⟩

end
end ArcadiaRecommendation
