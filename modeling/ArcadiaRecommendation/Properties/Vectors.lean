import ArcadiaRecommendation.Memory.Enrichment

/-! Both vectors of a stored game describe the words stored with it, however ingest,
generation and embedding passes are interleaved. -/
namespace ArcadiaRecommendation
namespace Memory

section Words
variable {R : Type} [Scalar R] [Casing] {Body : Type}

/-- The sparse vector is that of the labels. The dense one is empty, or the provider's for the text. -/
structure Worded (describe : String → List R) (game : GameProfile R) : Prop where
  sparse : embed game.genres game.tags = .ok game.embedding
  dense : game.dense = .empty ∨ game.dense = ⟨describe game.embeddingText⟩

private theorem worded_closed (describe : String → List R) : Closed (Worded describe) fun _ => True where
  described existing gameId developerId title genres tags publishedAt description made _ described := by
    obtain ⟨_,_,_,sameGenres,sameTags,labels,dense⟩ :=
      HandleGamePublished.describe_ok existing gameId developerId title genres tags publishedAt description made described
    exact ⟨by rw [sameGenres,sameTags]; exact labels,.inl dense⟩
  bought _ worded := ⟨worded.sparse,worded.dense⟩
  withdrawn _ worded := ⟨worded.sparse,worded.dense⟩
  blank _ := trivial
  observed _ _ _ _ _ _ _ _ := trivial
  rebuilt _ _ _ _ _ _ := trivial

/-- A snapshot keeps its words when it is written back, so a stale one still fits its vector. -/
theorem independent_answers (embed : Embedder R Body) (describe : String → List R)
    (independent : ∀ body texts vectors, embed body texts = .ok vectors → vectors = texts.map describe) :
    embed.Answers (Worded describe) := by
  intro body pending vectors worded answered pair member
  have zipped : pending.zip vectors = pending.map fun about => (about,describe about.embeddingText) := by
    calc pending.zip vectors
      _ = (pending.map id).zip (pending.map fun about => describe about.embeddingText) := by
        rw [independent body _ vectors answered,List.map_map,List.map_id]
        rfl
      _ = pending.map fun about => (about,describe about.embeddingText) := List.zip_map'
  rw [zipped] at member
  obtain ⟨about,inside,equal⟩ := List.mem_map.mp member
  rw [← equal]
  exact ⟨(worded about inside).sparse,.inr rfl⟩

theorem vectors_describe_words (backfillLimit : Nat) (embed : Embedder R Body) (describe : String → List R)
    (independent : ∀ body texts vectors, embed body texts = .ok vectors → vectors = texts.map describe)
    (moves : List (Move R Body)) (gameId : GameId) (game : GameProfile R)
    (stored : (Enrichment.run backfillLimit embed moves).store.games.get gameId = some game) :
    ArcadiaRecommendation.embed game.genres game.tags = .ok game.embedding ∧
      (game.dense = .empty ∨ game.dense = ⟨describe game.embeddingText⟩) := by
  have kept := Enrichment.run_kept (worded_closed describe) backfillLimit embed
    (independent_answers embed describe independent) moves
  have worded := kept.store.games gameId game stored
  exact ⟨worded.sparse,worded.dense⟩

end Words
end Memory

namespace Memory
attribute [local instance] Casing.unchanged

def lengths : Embedder ℚ Unit := fun _ texts => .ok (texts.map fun text => [(text.length : ℚ)])

/-- The game is published again, in other words, between the two phases of a pass. -/
def republishedInPass : List (Move ℚ Unit) :=
  [.work ⟨.ingest (.gamePublished ⟨2⟩ ⟨⟨1⟩⟩ ⟨⟨9⟩⟩ "Race" ["racing"] [] none ""),.fixed,none⟩,.read .fixed 32,.answer 0 (),
    .work ⟨.ingest (.gamePublished ⟨3⟩ ⟨⟨1⟩⟩ ⟨⟨9⟩⟩ "Race II" ["racing"] ["kart"] none ""),.fixed,none⟩,
    .write 0 .fixed none]

theorem vectors_describe_words_stale : ∃ game,
    (Enrichment.run 500 lengths republishedInPass).store.games.get ⟨⟨1⟩⟩ = some game ∧ game.dense = ⟨[20]⟩ ∧
      ArcadiaRecommendation.embed game.genres game.tags = .ok game.embedding ∧
      (game.dense = .empty ∨ game.dense = ⟨[(game.embeddingText.length : ℚ)]⟩) := by
  have known : (((Enrichment.run 500 lengths republishedInPass).store.games.get ⟨⟨1⟩⟩).map (·.dense)) =
      some ⟨[20]⟩ := by decide +kernel
  obtain ⟨game,stored,dense⟩ := Option.map_eq_some_iff.mp known
  refine ⟨game,stored,dense,?_⟩
  exact vectors_describe_words 500 lengths (fun text => [(text.length : ℚ)])
    (fun _ _ _ answered => (Except.ok.inj answered).symm) republishedInPass ⟨⟨1⟩⟩ game stored

end Memory
end ArcadiaRecommendation
