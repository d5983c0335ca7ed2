import ArcadiaRecommendation.Domain.Embedding

/-! The read-model of a game. `GameFields` are the columns of a profile, and
`GameProfile` the columns the constructor accepted: a non-blank bounded title, a
non-negative counter, and labels that have been embedded. -/
namespace ArcadiaRecommendation

structure GameFields (R : Type) [Scalar R] where
  gameId : GameId
  developerId : UserId
  title : String
  genres : List String := []
  tags : List String := []
  description : String := ""
  publishedAt : Option DateTime := none
  isPublished : Bool := true
  purchaseCount : Int := 0
  embedding : Embedding R := .empty
  dense : DenseEmbedding R := .empty
  deriving DecidableEq

/-- The sparse vector of a game: every non-blank label counts once. -/
def embed {R : Type} [Scalar R] [Casing] (genres tags : List String) :
    Except InvariantViolation (Embedding R) := do
  let first ← (genres.filter fun genre => Text.strip genre ≠ "").mapM (feature "genre")
  let second ← (tags.filter fun tag => Text.strip tag ≠ "").mapM (feature "tag")
  return .of (first ++ second)

theorem embed_error {R : Type} [Scalar R] [Casing] (genres tags : List String) (rule : InvariantViolation)
    (refused : (embed genres tags : Except InvariantViolation (Embedding R)) = .error rule) :
    rule.isWidth = false := by
  unfold embed at refused
  simp only [bind,Except.bind,pure,Except.pure] at refused
  split at refused
  · rename_i broken first
    cases Except.error.inj refused
    obtain ⟨genre,_,failed⟩ := mapM_error _ _ _ first
    exact feature_error _ genre rule failed
  split at refused
  · rename_i broken second
    cases Except.error.inj refused
    obtain ⟨tag,_,failed⟩ := mapM_error _ _ _ second
    exact feature_error _ tag rule failed
  · cases refused

theorem embed_of {R : Type} [Scalar R] [Casing] (genres tags : List String) (embedding : Embedding R)
    (embedded : embed genres tags = .ok embedding) : ∃ features, embedding = .of features ∧ ∀ name, name ∈ features ↔
      (∃ genre ∈ genres, Text.strip genre ≠ "" ∧ feature "genre" genre = .ok name) ∨
        ∃ tag ∈ tags, Text.strip tag ≠ "" ∧ feature "tag" tag = .ok name := by
  unfold embed at embedded
  simp only [bind,Except.bind,pure,Except.pure] at embedded
  split at embedded
  · cases embedded
  rename_i first firstMade
  split at embedded
  · cases embedded
  rename_i second secondMade
  refine ⟨first ++ second,(Except.ok.inj embedded).symm,fun name => ?_⟩
  rw [List.mem_append,mem_mapM_iff _ _ _ firstMade,mem_mapM_iff _ _ _ secondMade]
  simp only [List.mem_filter,decide_eq_true_eq,and_assoc]

def Acceptable [Casing] (kind : String) (labels : List String) : Prop :=
  ∀ label ∈ labels, Text.strip label ≠ "" → ∃ name, feature kind label = .ok name

theorem embed_total_iff {R : Type} [Scalar R] [Casing] (genres tags : List String) :
    (∃ embedding, (embed genres tags : Except InvariantViolation (Embedding R)) = .ok embedding) ↔
      Acceptable "genre" genres ∧ Acceptable "tag" tags := by
  have accepted (kind : String) (labels : List String) : Acceptable kind labels ↔
      ∃ made, (labels.filter fun label => Text.strip label ≠ "").mapM (feature kind) = .ok made := by
    rw [mapM_total_iff]
    simp only [Acceptable,List.mem_filter,decide_eq_true_eq,and_imp]
  rw [accepted,accepted,embed]
  cases (genres.filter fun genre => Text.strip genre ≠ "").mapM (feature "genre") with
  | error rule => exact iff_of_false (fun ⟨_,done⟩ => by cases done) fun ⟨⟨_,done⟩,_⟩ => by cases done
  | ok first =>
    cases (tags.filter fun tag => Text.strip tag ≠ "").mapM (feature "tag") with
    | error rule => exact iff_of_false (fun ⟨_,done⟩ => by cases done) fun ⟨_,_,done⟩ => by cases done
    | ok second => exact iff_of_true ⟨_,rfl⟩ ⟨⟨first,rfl⟩,second,rfl⟩

structure GameProfile (R : Type) [Scalar R] [Casing] extends GameFields R where
  titleNotBlank : Text.strip title ≠ ""
  titleBounded : title.length ≤ Limits.maxTitleChars
  countNonnegative : 0 ≤ purchaseCount
  labelsEmbedded : embedding.isEmpty = true → genres ≠ [] ∨ tags ≠ [] → embed genres tags = .ok embedding
  deriving DecidableEq

namespace GameProfile
variable {R : Type} [Scalar R] [Casing]

/-- The constructor with its `__post_init__`. -/
def construct (fields : GameFields R) : Except InvariantViolation (GameProfile R) :=
  if blank : Text.strip fields.title = "" then .error .blankTitle
  else if long : Limits.maxTitleChars < fields.title.length then .error .longTitle
  else if negative : fields.purchaseCount < 0 then .error .negativePurchaseCount
  else if bare : fields.embedding.isEmpty = true ∧ (fields.genres ≠ [] ∨ fields.tags ≠ []) then
    match embedded : embed fields.genres fields.tags with
    | .error rule => .error rule
    | .ok embedding => .ok
      { fields with
        embedding := embedding
        titleNotBlank := blank
        titleBounded := Nat.le_of_not_lt long
        countNonnegative := Int.not_lt.mp negative
        labelsEmbedded := fun _ _ => embedded }
  else .ok
    { fields with
      titleNotBlank := blank
      titleBounded := Nat.le_of_not_lt long
      countNonnegative := Int.not_lt.mp negative
      labelsEmbedded := fun empty labels => absurd ⟨empty,labels⟩ bare }

def trimmed (description : String) : String :=
  Text.firstChars Limits.maxDescriptionChars (Text.strip description)

def published (gameId : GameId) (developerId : UserId) (title : String) (genres tags : List String)
    (publishedAt : Option DateTime) (description : String) : Except InvariantViolation (GameProfile R) := do
  let embedding ← embed genres tags
  construct
    { gameId, developerId, title := Text.strip title, genres, tags, description := trimmed description,
      publishedAt, isPublished := true, embedding }

/-- A republished game keeps its counter and drops the dense vector of its old words. -/
def redescribed (game : GameProfile R) (title : String) (genres tags : List String)
    (description : String) : Except InvariantViolation (GameProfile R) := do
  let embedding ← embed genres tags
  construct
    { game.toGameFields with
      title := Text.strip title, genres, tags, description := trimmed description,
      isPublished := true, embedding, dense := .empty }

def embedded (game : GameProfile R) (dense : DenseEmbedding R) : GameProfile R := { game with dense }

def bought (game : GameProfile R) : GameProfile R :=
  { game with
    purchaseCount := game.purchaseCount + 1
    countNonnegative := Int.add_nonneg game.countNonnegative Int.one_nonneg }

def withdrawn (game : GameProfile R) : GameProfile R := { game with isPublished := false }

def isRecommendable (game : GameProfile R) : Bool := game.isPublished

def needsEmbedding (game : GameProfile R) : Bool := game.isPublished && game.dense.isEmpty

def embeddingText (game : GameProfile R) : String :=
  " ".intercalate ([game.title]
    ++ (if game.genres.isEmpty then [] else ["Genres: " ++ ", ".intercalate game.genres ++ "."])
    ++ (if game.tags.isEmpty then [] else ["Tags: " ++ ", ".intercalate game.tags ++ "."])
    ++ (if game.description = "" then [] else [game.description]))

@[ext] theorem ext_fields {first second : GameProfile R} (same : first.toGameFields = second.toGameFields) :
    first = second := by
  cases first
  cases second
  cases same
  rfl

theorem construct_fields (game : GameProfile R) : construct game.toGameFields = .ok game := by
  have long := Nat.not_lt.mpr game.titleBounded
  have negative := Int.not_lt.mpr game.countNonnegative
  unfold construct
  rw [dif_neg game.titleNotBlank,dif_neg long,dif_neg negative]
  split
  · rename_i bare
    have known := game.labelsEmbedded bare.1 bare.2
    split
    · rename_i rule failed
      rw [known] at failed
      cases failed
    · rename_i embedding computed
      have same : game.embedding = embedding := Except.ok.inj (known.symm.trans computed)
      subst same
      rfl
  · rfl

theorem construct_ok (fields : GameFields R) (game : GameProfile R)
    (labels : embed fields.genres fields.tags = .ok fields.embedding)
    (built : construct fields = .ok game) : game.toGameFields = fields := by
  unfold construct at built
  split at built
  · cases built
  split at built
  · cases built
  split at built
  · cases built
  split at built
  · split at built
    · cases built
    · rename_i embedding computed
      cases Except.ok.inj built
      have same : fields.embedding = embedding := Except.ok.inj (labels.symm.trans computed)
      subst same
      rfl
  · cases Except.ok.inj built
    rfl

theorem construct_kept (fields : GameFields R) (game : GameProfile R) (built : construct fields = .ok game) :
    ∃ embedding, game.toGameFields = { fields with embedding := embedding } := by
  unfold construct at built
  split at built
  · cases built
  split at built
  · cases built
  split at built
  · cases built
  split at built
  · split at built
    · cases built
    · rename_i embedding _
      cases Except.ok.inj built
      exact ⟨embedding,rfl⟩
  · cases Except.ok.inj built
    exact ⟨fields.embedding,rfl⟩

theorem construct_total (fields : GameFields R) (title : Text.strip fields.title ≠ "")
    (bounded : fields.title.length ≤ Limits.maxTitleChars) (count : 0 ≤ fields.purchaseCount)
    (labels : embed fields.genres fields.tags = .ok fields.embedding) : ∃ game, construct fields = .ok game := by
  unfold construct
  rw [dif_neg title,dif_neg (Nat.not_lt.mpr bounded),dif_neg (Int.not_lt.mpr count)]
  split
  · split
    · rename_i rule failed
      rw [labels] at failed
      cases failed
    · exact ⟨_,rfl⟩
  · exact ⟨_,rfl⟩

theorem construct_error (fields : GameFields R) (rule : InvariantViolation)
    (refused : construct fields = .error rule) : rule.isWidth = false := by
  unfold construct at refused
  split at refused
  · rw [← Except.error.inj refused]
    rfl
  split at refused
  · rw [← Except.error.inj refused]
    rfl
  split at refused
  · rw [← Except.error.inj refused]
    rfl
  split at refused
  · split at refused
    · rename_i broken failed
      rw [← Except.error.inj refused]
      exact embed_error _ _ broken failed
    · cases refused
  · cases refused

theorem published_error (gameId : GameId) (developerId : UserId) (title : String) (genres tags : List String)
    (publishedAt : Option DateTime) (description : String) (rule : InvariantViolation)
    (refused : (published gameId developerId title genres tags publishedAt description :
      Except InvariantViolation (GameProfile R)) = .error rule) : rule.isWidth = false := by
  unfold published at refused
  simp only [bind,Except.bind] at refused
  split at refused
  · rename_i broken failed
    rw [← Except.error.inj refused]
    exact embed_error genres tags broken failed
  · exact construct_error _ rule refused

theorem redescribed_error (before : GameProfile R) (title : String) (genres tags : List String)
    (description : String) (rule : InvariantViolation)
    (refused : before.redescribed title genres tags description = .error rule) : rule.isWidth = false := by
  unfold redescribed at refused
  simp only [bind,Except.bind] at refused
  split at refused
  · rename_i broken failed
    rw [← Except.error.inj refused]
    exact embed_error genres tags broken failed
  · exact construct_error _ rule refused

theorem published_ok (gameId : GameId) (developerId : UserId) (title : String) (genres tags : List String)
    (publishedAt : Option DateTime) (description : String) (game : GameProfile R)
    (built : published gameId developerId title genres tags publishedAt description = .ok game) :
    ∃ embedding, embed genres tags = .ok embedding ∧ game.toGameFields =
      { gameId, developerId, title := Text.strip title, genres, tags, description := trimmed description,
        publishedAt, isPublished := true, embedding } := by
  unfold published at built
  cases labels : (embed genres tags : Except InvariantViolation (Embedding R)) with
  | error rule => simp [labels,bind,Except.bind] at built
  | ok embedding =>
    simp only [labels,bind,Except.bind] at built
    exact ⟨embedding,rfl,construct_ok _ game labels built⟩

theorem redescribed_ok (before : GameProfile R) (title : String) (genres tags : List String)
    (description : String) (game : GameProfile R)
    (built : before.redescribed title genres tags description = .ok game) :
    ∃ embedding, embed genres tags = .ok embedding ∧ game.toGameFields =
      { before.toGameFields with
        title := Text.strip title, genres, tags, description := trimmed description,
        isPublished := true, embedding, dense := .empty } := by
  unfold redescribed at built
  cases labels : (embed genres tags : Except InvariantViolation (Embedding R)) with
  | error rule => simp [labels,bind,Except.bind] at built
  | ok embedding =>
    simp only [labels,bind,Except.bind] at built
    exact ⟨embedding,rfl,construct_ok _ game labels built⟩

@[simp] theorem bought_fields (game : GameProfile R) : game.bought.toGameFields =
    { game.toGameFields with purchaseCount := game.purchaseCount + 1 } := rfl

@[simp] theorem withdrawn_fields (game : GameProfile R) : game.withdrawn.toGameFields =
    { game.toGameFields with isPublished := false } := rfl

@[simp] theorem embedded_fields (game : GameProfile R) (dense : DenseEmbedding R) :
    (game.embedded dense).toGameFields = { game.toGameFields with dense } := rfl

def untitled (gameId : GameId) : GameProfile R where
  gameId := gameId
  developerId := ⟨⟨9⟩⟩
  title := "Untitled"
  titleNotBlank := by decide
  titleBounded := by decide
  countNonnegative := Int.le_refl 0
  labelsEmbedded := by
    intro _ labels
    rcases labels with genres | tags
    · exact absurd rfl genres
    · exact absurd rfl tags

end GameProfile
end ArcadiaRecommendation
