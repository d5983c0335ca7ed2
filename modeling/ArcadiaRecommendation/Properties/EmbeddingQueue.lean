import ArcadiaRecommendation.Foundation.Batches
import ArcadiaRecommendation.Memory.Enrichment
import ArcadiaRecommendation.Properties.TopSellers

/-! The games without a vector as a queue, most bought first. With an embedder that answers text by text a
batch fails as a whole, so a game whose text is refused keeps every game behind it waiting. -/
namespace ArcadiaRecommendation
namespace Memory
variable {R : Type} [Scalar R] [Casing] {Body : Type}

def embeddingQueue (games : GameTable R) : List (GameProfile R) :=
  sortedBy TopSellersProvider.precedes (games.values.filter (·.needsEmbedding))

private theorem needingEmbedding_queue (games : GameTable R) (limit : Nat) :
    needingEmbedding games limit = (embeddingQueue games).take limit := rfl

private theorem mem_embeddingQueue (games : GameTable R) (game : GameProfile R) :
    game ∈ embeddingQueue games ↔ games.get game.gameId = some game ∧ game.needsEmbedding = true := by
  rw [embeddingQueue,mem_sortedBy,List.mem_filter,games.mem_values]

private theorem embeddingQueue_distinct (games : GameTable R) : ((embeddingQueue games).map (·.gameId)).Nodup := by
  have values : (games.values.map (·.gameId)).Nodup := by
    rw [games.keys_values]
    exact games.keys_nodup
  exact ((List.perm_insertionSort _ _).map _).nodup_iff.mpr (values.sublist (List.filter_sublist.map _))

/-- The queue is the only list of these games in this order. -/
theorem embeddingQueue_unique (games : GameTable R) (queue : List (GameProfile R))
    (distinct : (queue.map (·.gameId)).Nodup) (sorted : queue.Pairwise TopSellersProvider.precedes)
    (same : ∀ game, game ∈ queue ↔ games.get game.gameId = some game ∧ game.needsEmbedding = true) :
    embeddingQueue games = queue := by
  have perm : (embeddingQueue games).Perm queue :=
    (List.perm_ext_iff_of_nodup (embeddingQueue_distinct games).of_map distinct.of_map).mpr fun game =>
      (mem_embeddingQueue games game).trans (same game).symm
  have apart := TopSellersProvider.precedes_separates queue distinct
  exact perm.eq_of_pairwise (fun first second inFirst inSecond => apart first (perm.mem_iff.mp inFirst) second inSecond)
    (TopSellersProvider.precedes_preorders.sorted _) sorted

/-- A batch that is written back leaves the queue, and nothing else does. -/
theorem embeddingQueue_written (before games : GameTable R) (size : Nat) (vectors : List (List R))
    (filled : ∀ vector ∈ vectors, vector ≠ [])
    (rows : ∀ gameId,
      (∃ pair ∈ ((embeddingQueue before).take size).zip vectors,
        pair.1.gameId = gameId ∧ games.get gameId = some (pair.1.embedded ⟨pair.2⟩)) ∨
      (∀ game ∈ (embeddingQueue before).take size, game.gameId ≠ gameId) ∧ games.get gameId = before.get gameId) :
    embeddingQueue games = (embeddingQueue before).drop size := by
  have distinct := embeddingQueue_distinct before
  have parts : (embeddingQueue before).take size ++ (embeddingQueue before).drop size = embeddingQueue before :=
    List.take_append_drop size _
  refine embeddingQueue_unique games _ (distinct.sublist ((List.drop_sublist size _).map _))
    ((TopSellersProvider.precedes_preorders.sorted _).sublist (List.drop_sublist size _)) fun game => ⟨?_,?_⟩
  · intro behind
    obtain ⟨stored,needs⟩ := (mem_embeddingQueue before game).mp (List.mem_of_mem_drop behind)
    rcases rows game.gameId with ⟨pair,member,key,_⟩ | ⟨_,same⟩
    · rw [← parts,List.map_append] at distinct
      have front := List.mem_map_of_mem (f := fun game : GameProfile R => game.gameId) (List.of_mem_zip member).1
      rw [key] at front
      exact absurd (List.mem_map.mpr ⟨game,behind,rfl⟩) (List.disjoint_of_nodup_append distinct front)
    · exact ⟨same.trans stored,needs⟩
  · rintro ⟨stored,needs⟩
    rcases rows game.gameId with ⟨pair,member,key,written⟩ | ⟨absent,same⟩
    · cases Option.some.inj (stored.symm.trans written)
      have vector := filled pair.2 (List.of_mem_zip member).2
      rw [GameProfile.needsEmbedding,Bool.and_eq_true] at needs
      exact absurd (List.isEmpty_iff.mp needs.2) vector
    · have queued := (mem_embeddingQueue before game).mpr ⟨same.symm.trans stored,needs⟩
      rw [← parts,List.mem_append] at queued
      exact queued.resolve_left fun front => absent game front rfl

def hashing (embedder : HashingEmbedder) : Embedder R Body := fun _ => embedder.embed

/-- Whether the words of a game's text can all be hashed. -/
def hashable (embedder : HashingEmbedder) (game : GameProfile R) : Bool :=
  (embedder.one game.embeddingText : Except EmbedFault (List R)).isOk

/-- One call of the use case. -/
structure EmbeddingCall (Body : Type) where
  reading : Environment
  writing : Environment
  body : Body

namespace Enrichment

def embedPending (backfillLimit : Nat) (embed : Embedder R Body) (batchSize : Nat) (enrichment : Enrichment R)
    (call : EmbeddingCall Body) : Enrichment R :=
  [Move.read call.reading batchSize,.answer 0 call.body,.write 0 call.writing none].foldl (after backfillLimit embed) enrichment

end Enrichment

theorem hashed (embedder : HashingEmbedder) (games : List (GameProfile R)) :
    (games.all (hashable embedder) = true ∧ ∃ vectors : List (List R),
      embedder.embed (games.map (·.embeddingText)) = .ok vectors ∧
        List.Forall₂ (fun game vector => embedder.one game.embeddingText = .ok vector) games vectors) ∨
    games.all (hashable embedder) = false ∧
      ∃ fault, (embedder.embed (games.map (·.embeddingText)) : Except EmbedFault (List (List R))) = .error fault := by
  have total := mapM_total_iff (fun text => (embedder.one text : Except EmbedFault (List R))) (games.map (·.embeddingText))
  have accepted : games.all (hashable embedder) = true ↔
      ∀ text ∈ games.map (·.embeddingText), ∃ vector, (embedder.one text : Except EmbedFault (List R)) = .ok vector := by
    rw [List.all_eq_true,List.forall_mem_map]
    refine forall₂_congr fun game _ => ?_
    rw [hashable]
    cases (embedder.one game.embeddingText : Except EmbedFault (List R)) with
    | ok vector => exact iff_of_true rfl ⟨vector,rfl⟩
    | error fault => exact iff_of_false Bool.false_ne_true fun ⟨_,impossible⟩ => by cases impossible
  rw [← accepted] at total
  cases answered : (embedder.embed (games.map (·.embeddingText)) : Except EmbedFault (List (List R))) with
  | ok vectors =>
    have each := (mapM_ok_iff _ _ _).mp answered
    rw [List.forall₂_map_left_iff] at each
    exact .inl ⟨total.mp ⟨vectors,answered⟩,vectors,rfl,each⟩
  | error fault =>
    refine .inr ⟨Bool.eq_false_iff.mpr fun all => ?_,fault,rfl⟩
    obtain ⟨vectors,made⟩ := total.mpr all
    rw [HashingEmbedder.embed,made] at answered
    cases answered

/-- What became of the games of a queue of which the rest is left. -/
def Served (embedder : HashingEmbedder) (queue rest : List (GameProfile R)) (before games : GameTable R) : Prop :=
  ∀ gameId, (∃ game ∈ queue, game ∉ rest ∧ game.gameId = gameId ∧ ∃ vector,
      embedder.one game.embeddingText = .ok vector ∧ games.get gameId = some (game.embedded ⟨vector⟩)) ∨
    (∀ game ∈ queue, game.gameId = gameId → game ∈ rest) ∧ games.get gameId = before.get gameId

namespace Served
variable {embedder : HashingEmbedder} {queue rest last : List (GameProfile R)} {before between games : GameTable R}

theorem refl : Served embedder queue queue before before :=
  fun _ => .inr ⟨fun _ member _ => member,rfl⟩

theorem trans (first : Served embedder queue rest before between) (second : Served embedder rest last between games)
    (fewer : rest ⊆ queue) (fewest : last ⊆ rest) : Served embedder queue last before games := by
  intro gameId
  rcases second gameId with ⟨game,member,gone,key,vector,made,written⟩ | ⟨left,same⟩
  · exact .inl ⟨game,fewer member,gone,key,vector,made,written⟩
  rcases first gameId with ⟨game,member,gone,key,vector,made,written⟩ | ⟨kept,unchanged⟩
  · exact .inl ⟨game,member,fun inside => gone (fewest inside),key,vector,made,same.trans written⟩
  · exact .inr ⟨fun game member key => left game (kept game member key) key,same.trans unchanged⟩

end Served

namespace Enrichment

private theorem embedPending_served (embedder : HashingEmbedder) (positive : 1 ≤ embedder.dimensions)
    (backfillLimit batchSize : Nat) (store : MemoryStore R) (call : EmbeddingCall Body) :
    ∃ games, embedPending backfillLimit (hashing embedder) batchSize { store } call = { store := { store with games } } ∧
      embeddingQueue games = advance (hashable embedder) batchSize (embeddingQueue store.games) ∧
      Served embedder (embeddingQueue store.games) (embeddingQueue games) store.games games := by
  have batch_eq := needingEmbedding_queue store.games batchSize
  simp only [embedPending,List.foldl_cons,List.foldl_nil,after,execute_pending]
  cases batch : needingEmbedding store.games batchSize with
  | nil =>
    rw [batch] at batch_eq
    refine ⟨store.games,rfl,?_,.refl⟩
    rw [advance,← batch_eq,List.all_nil,if_pos rfl]
    rcases List.take_eq_nil_iff.mp batch_eq.symm with none | empty
    · rw [none,List.drop_zero]
    · rw [empty,List.drop_nil]
  | cons first rest =>
    rw [batch] at batch_eq
    have asked : (hashing embedder : Embedder R Body) call.body ((first :: rest).map (·.embeddingText)) =
        (embedder.embed ((first :: rest).map (·.embeddingText)) : Except EmbedFault (List (List R))) := rfl
    simp only [List.nil_append,List.getElem?_cons_zero,asked]
    rcases hashed embedder (first :: rest) with ⟨all,vectors,answered,each⟩ | ⟨refused,fault,failed⟩
    · rw [answered]
      obtain ⟨done,ran⟩ := (execute_embedded_iff call.writing (first :: rest) vectors store).mpr each.length_eq
      obtain ⟨games,same,rows⟩ := execute_embedded_zip call.writing _ vectors store done ran
      have written : (attempt call.writing none (EmbedPendingGames.store (first :: rest) vectors) store).2.store = done :=
        congrArg Prod.snd ran
      have filled : ∀ vector ∈ vectors, vector ≠ [] := by
        intro vector member none
        have wide := embedder.embed_width _ vectors answered vector member
        rw [none,List.length_nil] at wide
        omega
      have queue := embeddingQueue_written store.games games batchSize vectors filled (by rw [← batch_eq]; exact rows)
      simp only [List.set_cons_zero,List.getElem?_cons_zero,List.eraseIdx_cons_zero]
      rw [written,same]
      refine ⟨games,rfl,?_,fun gameId => ?_⟩
      · rw [queue,advance,← batch_eq,all,if_pos rfl]
      · have apart := List.disjoint_take_drop (embeddingQueue_distinct store.games).of_map (Nat.le_refl batchSize)
        rcases rows gameId with ⟨pair,member,key,found⟩ | ⟨absent,unchanged⟩
        · have front := (List.of_mem_zip member).1
          rw [batch_eq] at front
          refine .inl ⟨pair.1,List.mem_of_mem_take front,?_,key,pair.2,(List.forall₂_iff_zip.mp each).2 member,found⟩
          rw [queue]
          exact fun behind => apart front behind
        · refine .inr ⟨fun game member key => ?_,unchanged⟩
          rw [← List.take_append_drop batchSize (embeddingQueue store.games),List.mem_append,← batch_eq] at member
          rw [queue]
          exact member.resolve_left fun front => absent game front key
    · rw [failed]
      refine ⟨store.games,rfl,?_,.refl⟩
      rw [advance,← batch_eq,refused,if_neg Bool.false_ne_true]

private theorem foldl_served (embedder : HashingEmbedder) (positive : 1 ≤ embedder.dimensions)
    (backfillLimit batchSize : Nat) (store : MemoryStore R) (calls : List (EmbeddingCall Body)) :
    ∃ games, calls.foldl (embedPending backfillLimit (hashing embedder) batchSize) { store } =
        { store := { store with games } } ∧
      embeddingQueue games = (advance (hashable embedder) batchSize)^[calls.length] (embeddingQueue store.games) ∧
      Served embedder (embeddingQueue store.games) (embeddingQueue games) store.games games := by
  induction calls generalizing store with
  | nil => exact ⟨store.games,rfl,rfl,.refl⟩
  | cons call calls ih =>
    obtain ⟨between,first,queue,served⟩ := embedPending_served embedder positive backfillLimit batchSize store call
    obtain ⟨games,later,queues,rest⟩ := ih { store with games := between }
    have fewer : ∀ (passes : Nat) (items : List (GameProfile R)),
        (advance (hashable embedder) batchSize)^[passes] items ⊆ items := by
      intro passes items
      rw [advance_iterate]
      exact List.drop_subset _ _
    refine ⟨games,?_,?_,served.trans rest ?_ ?_⟩
    · rw [List.foldl_cons,first,later]
    · rw [queues,queue]
      rfl
    · rw [queue]
      exact fewer 1 _
    · rw [queues]
      exact fewer calls.length _

/-- Passes over a quiet catalogue embed the games batch after batch, most bought first, down to the batch with
a game whose words cannot be hashed. That batch and all behind it are never embedded. -/
theorem embedding_passes (embedder : HashingEmbedder) (positive : 1 ≤ embedder.dimensions)
    (backfillLimit batchSize : Nat) (store : MemoryStore R) (calls : List (EmbeddingCall Body)) :
    let queue := embeddingQueue store.games
    let served := min (calls.length * batchSize) (headway (hashable embedder) batchSize queue)
    ∃ games, calls.foldl (embedPending backfillLimit (hashing embedder) batchSize) { store } =
        { store := { store with games } } ∧
      embeddingQueue games = queue.drop served ∧
      ∀ gameId,
        (∃ game ∈ queue.take served, game.gameId = gameId ∧ ∃ vector,
          embedder.one game.embeddingText = .ok vector ∧ games.get gameId = some (game.embedded ⟨vector⟩)) ∨
        (∀ game ∈ queue.take served, game.gameId ≠ gameId) ∧ games.get gameId = store.games.get gameId := by
  intro queue served
  obtain ⟨games,ran,left,rows⟩ := foldl_served embedder positive backfillLimit batchSize store calls
  rw [advance_iterate] at left
  have rest : embeddingQueue games = queue.drop served := left
  have apart := List.disjoint_take_drop (embeddingQueue_distinct store.games).of_map (Nat.le_refl served)
  refine ⟨games,ran,rest,fun gameId => ?_⟩
  rw [rest] at rows
  rcases rows gameId with ⟨game,member,gone,found⟩ | ⟨kept,same⟩
  · rw [← List.take_append_drop served (embeddingQueue store.games),List.mem_append] at member
    exact .inl ⟨game,member.resolve_right gone,found⟩
  · refine .inr ⟨fun game front key => ?_,same⟩
    exact apart front (kept game (List.mem_of_mem_take front) key)

end Enrichment

end Memory

namespace Memory
attribute [local instance] Casing.unchanged

/-- One word cannot be hashed. -/
def unhashing : HashingEmbedder := ⟨2,fun token => if token = "lost" then none else some 0⟩

def lostGame : GameProfile ℚ :=
  { (GameProfile.untitled ⟨⟨3⟩⟩ : GameProfile ℚ) with
    title := "lost"
    titleNotBlank := by decide
    titleBounded := by decide }

/-- The last of five games is the one most bought. -/
def untitledStore : MemoryStore ℚ where
  games := [.untitled ⟨⟨1⟩⟩,.untitled ⟨⟨2⟩⟩,lostGame,.untitled ⟨⟨4⟩⟩,GameProfile.bought (.untitled ⟨⟨5⟩⟩)].foldl Table.upsert ∅

/-- The batch behind the first holds the game that cannot be hashed. -/
theorem embedding_passes_unhashing : ∃ games, [(⟨.fixed,.fixed,()⟩ : EmbeddingCall Unit),⟨.fixed,.fixed,()⟩].foldl
      (Enrichment.embedPending 500 (hashing unhashing) 2) { store := untitledStore } =
        { store := { untitledStore with games } } ∧
    embeddingQueue games = [.untitled ⟨⟨2⟩⟩,lostGame,.untitled ⟨⟨4⟩⟩] ∧
    ∃ vector, games.get ⟨⟨5⟩⟩ = some ((GameProfile.bought (.untitled ⟨⟨5⟩⟩)).embedded ⟨vector⟩) := by
  have queue : embeddingQueue untitledStore.games =
      [GameProfile.bought (.untitled ⟨⟨5⟩⟩),.untitled ⟨⟨1⟩⟩,.untitled ⟨⟨2⟩⟩,lostGame,.untitled ⟨⟨4⟩⟩] := by decide +kernel
  have reached : headway (hashable unhashing) 2 (embeddingQueue untitledStore.games) = 2 := by decide +kernel
  obtain ⟨games,ran,left,rows⟩ := Enrichment.embedding_passes unhashing (by decide) 500 2 untitledStore
    [(⟨.fixed,.fixed,()⟩ : EmbeddingCall Unit),⟨.fixed,.fixed,()⟩]
  rw [reached,queue] at left
  refine ⟨games,ran,left,?_⟩
  have best := rows ⟨⟨5⟩⟩
  rw [reached,queue] at best
  rcases best with ⟨game,served,key,vector,_,found⟩ | ⟨none,_⟩
  · rcases List.mem_cons.mp served with rfl | other
    · exact ⟨vector,found⟩
    · cases List.mem_singleton.mp other
      cases key
  · exact absurd rfl (none _ List.mem_cons_self)

end Memory
end ArcadiaRecommendation
