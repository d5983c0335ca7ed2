import ArcadiaRecommendation.Adapters.Embedding
import ArcadiaRecommendation.Memory.Attempt
import ArcadiaRecommendation.Memory.Sweep

/-! Embedding passes beside ingest and generation. A pass reads its batch, asks the
provider and writes whole profiles back, and anything may be committed in between. -/
namespace ArcadiaRecommendation
namespace Memory
variable {R : Type} [Scalar R] [Casing] {Body : Type}

/-- An embedding port. What it answers to some texts also depends on the world outside. -/
abbrev Embedder (R Body : Type) := Body → List String → Except EmbedFault (List (List R))

inductive Pass (R : Type) [Scalar R] [Casing]
  | asked (pending : List (GameProfile R))
  | answered (pending : List (GameProfile R)) (vectors : List (List R))

structure Enrichment (R : Type) [Scalar R] [Casing] where
  store : MemoryStore R := {}
  passes : List (Pass R) := []

inductive Move (R Body : Type) [Scalar R] [Casing]
  | work (attempt : Attempt R)
  /-- A new pass reads its batch. -/
  | read (environment : Environment) (batchSize : Nat)
  /-- The provider answers the pass at a place, or fails it. -/
  | answer (place : Nat) (body : Body)
  /-- The pass at a place writes its batch back, unless an exception cuts it off. -/
  | write (place : Nat) (environment : Environment) (cut : Option Nat)

namespace Enrichment

def after (backfillLimit : Nat) (embed : Embedder R Body) (enrichment : Enrichment R) : Move R Body → Enrichment R
  | .work attempt => { enrichment with store := (attempt.session backfillLimit enrichment.store).store }
  | .read environment batchSize =>
    match execute environment (EmbedPendingGames.pending batchSize) enrichment.store with
    | (.ok (first :: rest),_) => { enrichment with passes := enrichment.passes ++ [.asked (first :: rest)] }
    | (.ok [],_) | (.error _,_) => enrichment
  | .answer place body =>
    match enrichment.passes[place]? with
    | some (.asked pending) =>
      match embed body (pending.map (·.embeddingText)) with
      | .ok vectors => { enrichment with passes := enrichment.passes.set place (.answered pending vectors) }
      | .error _ => { enrichment with passes := enrichment.passes.eraseIdx place }
    | some (.answered _ _) | none => enrichment
  | .write place environment cut =>
    match enrichment.passes[place]? with
    | some (.answered pending vectors) =>
      { store := (attempt environment cut (EmbedPendingGames.store pending vectors) enrichment.store).2.store
        passes := enrichment.passes.eraseIdx place }
    | some (.asked _) | none => enrichment

def run (backfillLimit : Nat) (embed : Embedder R Body) (moves : List (Move R Body)) : Enrichment R :=
  moves.foldl (after backfillLimit embed) {}

end Enrichment

structure Holds (game : GameProfile R → Prop) (preference : UserPreference R → Prop) (store : MemoryStore R) : Prop where
  games : ∀ gameId stored, store.games.get gameId = some stored → game stored
  preferences : ∀ userId stored, store.preferences.get userId = some stored → preference stored

/-- Whatever ingest and generation make of games and preferences with the properties has them. -/
structure Closed (game : GameProfile R → Prop) (preference : UserPreference R → Prop) : Prop where
  described : ∀ existing gameId developerId title genres tags publishedAt description made,
    (∀ stored, existing = some stored → game stored) →
      HandleGamePublished.describe existing gameId developerId title genres tags publishedAt description = .ok made →
        game made
  bought : ∀ stored, game stored → game stored.bought
  withdrawn : ∀ stored, game stored → game stored.withdrawn
  blank : ∀ userId, preference (.blank userId)
  observed : ∀ stored about kind at_ after, preference stored → game about →
    stored.observe about kind at_ = .ok after → preference after
  rebuilt : ∀ stored space after, preference stored →
    (∀ gameId vector, space.get gameId = some vector → ∃ about, game about ∧ about.dense = vector) →
      stored.rebuiltIn space = .ok after → preference after

section Closed
variable {game : GameProfile R → Prop} {preference : UserPreference R → Prop}

theorem Holds.preferenceOf {store : MemoryStore R} (holds : Holds game preference store) (closed : Closed game preference)
    (userId : UserId) : preference (store.preferenceOf userId) := by
  unfold MemoryStore.preferenceOf
  cases known : store.preferences.get userId with
  | none => exact closed.blank userId
  | some stored => exact holds.preferences userId stored known

theorem games_upsert (games : GameTable R) (made : GameProfile R) (holds : game made)
    (others : ∀ gameId stored, games.get gameId = some stored → game stored) (gameId : GameId)
    (stored : GameProfile R) (found : (games.upsert made).get gameId = some stored) : game stored := by
  rw [Table.get_upsert] at found
  split at found
  · exact Option.some.inj found ▸ holds
  · exact others gameId stored found

omit [Casing] in
theorem preferences_upsert (preferences : PreferenceTable R) (made : UserPreference R) (holds : preference made)
    (others : ∀ userId stored, preferences.get userId = some stored → preference stored) (userId : UserId)
    (stored : UserPreference R) (found : (preferences.upsert made).get userId = some stored) : preference stored := by
  rw [Table.get_upsert] at found
  split at found
  · exact Option.some.inj found ▸ holds
  · exact others userId stored found

private theorem creditAll_holds (closed : Closed game preference) (preferences : PreferenceTable R)
    (stored : ∀ userId known, preferences.get userId = some known → preference known) (about : GameProfile R)
    (holds : game about) (at_ : DateTime) (owners : List UserId) (staged credited : PreferenceTable R)
    (before : ∀ userId known, staged.get userId = some known → preference known)
    (done : creditAll preferences about at_ owners staged = .ok credited) :
    ∀ userId known, credited.get userId = some known → preference known := by
  induction owners generalizing staged with
  | nil =>
    cases Except.ok.inj done
    exact before
  | cons owner rest ih =>
    unfold creditAll at done
    split at done
    · rename_i observed folded
      have base : preference (((staged.get owner).or (preferences.get owner)).getD (.blank owner)) := by
        cases known : staged.get owner with
        | some own => exact before owner own known
        | none =>
          cases kept : preferences.get owner with
          | some own => exact stored owner own kept
          | none => exact closed.blank owner
      exact ih (staged.upsert observed)
        (preferences_upsert staged observed (closed.observed _ _ _ _ _ base holds folded) before) done
    · cases done

private theorem effect_holds (closed : Closed game preference) (backfillLimit : Nat) (environment : Environment)
    (store : MemoryStore R) (event : Event) (after : MemoryStore R) (holds : Holds game preference store)
    (done : effect backfillLimit environment store event = .ok after) : Holds game preference after := by
  cases event with
  | gamePublished eventId gameId developerId title genres tags publishedAt description =>
    simp only [effect] at done
    split at done
    · cases done
    rename_i made described
    have new : game made := closed.described _ _ _ _ _ _ _ _ made (holds.games gameId) described
    unfold backfilled at done
    dsimp only at done
    split at done
    · cases done
    rename_i staged credited
    cases Except.ok.inj done
    refine ⟨games_upsert store.games made new holds.games,?_⟩
    intro userId stored found
    rw [Table.get_update] at found
    rcases Option.or_eq_some_iff.mp found with fresh | ⟨_,old⟩
    · exact creditAll_holds closed store.preferences holds.preferences made new _ _ ∅ staged
        (fun _ _ none => by cases none) credited userId stored fresh
    · exact holds.preferences userId stored old
  | gameWithdrawn eventId gameId =>
    simp only [effect] at done
    split at done
    · cases Except.ok.inj done
      exact holds
    · rename_i stored known
      cases Except.ok.inj done
      exact ⟨games_upsert _ _ (closed.withdrawn stored (holds.games gameId stored known)) holds.games,holds.preferences⟩
  | purchaseCompleted eventId recipientId gameId occurredAt =>
    simp only [effect] at done
    split at done
    · cases Except.ok.inj done
      exact ⟨holds.games,holds.preferences⟩
    · rename_i stored known
      have own := holds.games gameId stored known
      unfold purchased at done
      split at done
      · cases done
      · rename_i observed folded
        cases Except.ok.inj done
        exact ⟨games_upsert _ _ (closed.bought stored own) holds.games,
          preferences_upsert _ _ (closed.observed _ _ _ _ _ (holds.preferenceOf closed recipientId) own folded)
            holds.preferences⟩
  | reviewPosted eventId authorId gameId liked occurredAt =>
    simp only [effect] at done
    split at done
    · cases Except.ok.inj done
      exact holds
    · rename_i stored known
      unfold reviewed at done
      split at done
      · cases done
      · rename_i observed folded
        cases Except.ok.inj done
        exact ⟨holds.games,preferences_upsert _ _ (closed.observed _ _ _ _ _ (holds.preferenceOf closed authorId)
          (holds.games gameId stored known) folded) holds.preferences⟩

private theorem ingest_holds (closed : Closed game preference) (backfillLimit : Nat) (environment : Environment)
    (cut : Option Nat) (event : Event) (store : MemoryStore R) (holds : Holds game preference store) :
    Holds game preference (attempt environment cut (event.execute backfillLimit) store).2.store := by
  rcases attempt_event environment cut backfillLimit event store with ⟨_,same⟩ | ⟨_,same⟩
  · rw [same]
    exact holds
  rw [same]
  unfold ingest
  split
  · exact holds
  cases done : effect backfillLimit environment store event with
  | error rule => exact holds
  | ok after =>
    have kept := effect_holds closed backfillLimit environment store event after holds done
    exact ⟨kept.games,kept.preferences⟩

theorem rebuilt_holds (closed : Closed game preference) (generation : Generation R) (store : MemoryStore R)
    (holds : Holds game preference store) (userId : UserId) (after : UserPreference R)
    (ok : rebuilt generation store (store.preferenceOf userId) = .ok after) : preference after := by
  have own := holds.preferenceOf closed userId
  unfold rebuilt at ok
  split at ok
  · refine closed.rebuilt _ _ after own ?_ ok
    intro gameId vector found
    obtain ⟨about,member,same⟩ := List.mem_map.mp (Dict.mem_of_ofList _ gameId vector found)
    obtain ⟨known,_,stored⟩ := List.mem_filterMap.mp member
    exact ⟨about,holds.games known about stored,congrArg Prod.snd same⟩
  · cases Except.ok.inj ok
    exact own

private theorem draft_holds (closed : Closed game preference) (environment : Environment) (generation : Generation R)
    (userId : UserId) (limit : Nat) (store : MemoryStore R) (holds : Holds game preference store) (made : Draft R)
    (ok : draft environment generation userId limit store = .ok made) (other : UserId) (known : UserPreference R)
    (staged : made.preferences.get other = some known) : preference known := by
  cases draft_drafted environment generation userId limit store made ok with
  | cold cold => cases staged
  | warm after scored items warm rebuilding same columns =>
    have new := rebuilt_holds closed generation store holds userId after rebuilding
    unfold Draft.preferences at staged
    dsimp only at staged
    split at staged
    · cases staged
    rename_i written dense
    have equal : after = written := by
      split at dense
      · exact Option.some.inj dense
      · cases dense
    rw [Table.get_upsert] at staged
    split at staged
    · exact Option.some.inj staged ▸ equal ▸ new
    · cases staged

private theorem generation_holds (closed : Closed game preference) (environment : Environment) (cut : Option Nat)
    (generation : Generation R) (userId : UserId) (limit : Nat) (store : MemoryStore R)
    (holds : Holds game preference store) : Holds game preference
      (attempt environment cut (GenerateRecommendations.execute generation userId limit) store).2.store := by
  rcases attempt_generation environment cut generation userId limit store with
    ⟨made,drafted,_,_,stored,_⟩ | ⟨_,same,_⟩
  · rw [stored]
    refine ⟨holds.games,?_⟩
    intro other known found
    unfold Draft.commit at found
    rw [Table.get_update] at found
    rcases Option.or_eq_some_iff.mp found with fresh | ⟨_,old⟩
    · exact draft_holds closed environment generation userId limit store holds made drafted other known fresh
    · exact holds.preferences other known old
  · rw [same]
    exact holds

private theorem written_holds (environment : Environment) (cut : Option Nat) (pending : List (GameProfile R))
    (vectors : List (List R)) (store : MemoryStore R)
    (pairs : ∀ pair ∈ pending.zip vectors, game (pair.1.embedded ⟨pair.2⟩)) (holds : Holds game preference store) :
    Holds game preference (attempt environment cut (EmbedPendingGames.store pending vectors) store).2.store := by
  have sealing := attempt_sealed environment cut (EmbedPendingGames.upsertEmbedded pending vectors)
    (only_upsertEmbedded pending vectors) store
  have program : (EmbedPendingGames.store pending vectors : UseCase R Unit) =
      (EmbedPendingGames.upsertEmbedded pending vectors).bind fun value => commit.bind fun _ => .done value := rfl
  rw [program]
  rcases sealing with ⟨value,returned,ended⟩ | ⟨_,same,_⟩
  · rw [ended]
    obtain ⟨games,staged,rows⟩ := run_upsertEmbedded environment pending vectors { store } _ (Prod.ext returned rfl)
    refine ⟨?_,?_⟩ <;> simp only [Session.sealed,applied,staged]
    case refine_2 => exact holds.preferences
    intro gameId stored found
    rw [Table.get_update] at found
    rcases rows gameId with ⟨pair,member,_,written⟩ | ⟨_,unwritten⟩
    · rw [written] at found
      exact Option.some.inj found ▸ pairs pair member
    · rw [unwritten] at found
      exact holds.games gameId stored found
  · rw [same]
    exact holds

def Pass.Holds (game : GameProfile R → Prop) : Pass R → Prop
  | .asked pending => ∀ about ∈ pending, game about
  | .answered pending vectors => ∀ pair ∈ pending.zip vectors, game (pair.1.embedded ⟨pair.2⟩)

def Embedder.Answers (embed : Embedder R Body) (game : GameProfile R → Prop) : Prop :=
  ∀ body (pending : List (GameProfile R)) vectors, (∀ about ∈ pending, game about) →
    embed body (pending.map (·.embeddingText)) = .ok vectors →
    ∀ pair ∈ pending.zip vectors, game (pair.1.embedded ⟨pair.2⟩)

namespace Enrichment

structure Kept (game : GameProfile R → Prop) (preference : UserPreference R → Prop) (enrichment : Enrichment R) :
    Prop where
  store : Memory.Holds game preference enrichment.store
  passes : ∀ pass ∈ enrichment.passes, pass.Holds game

theorem after_kept (closed : Closed game preference) (backfillLimit : Nat) (embed : Embedder R Body)
    (answers : embed.Answers game) (enrichment : Enrichment R) (move : Move R Body)
    (kept : enrichment.Kept game preference) : (after backfillLimit embed enrichment move).Kept game preference := by
  cases move with
  | work attempt =>
    refine ⟨?_,kept.passes⟩
    obtain ⟨work,environment,cut⟩ := attempt
    cases work with
    | ingest event => exact ingest_holds closed backfillLimit environment cut event enrichment.store kept.store
    | generate generation userId limit =>
      exact generation_holds closed environment cut generation userId limit enrichment.store kept.store
  | read environment batchSize =>
    simp only [after,execute_pending]
    cases batch : needingEmbedding enrichment.store.games batchSize with
    | nil => exact kept
    | cons first rest =>
      refine ⟨kept.store,?_⟩
      intro pass member
      rcases List.mem_append.mp member with old | new
      · exact kept.passes pass old
      rw [List.mem_singleton.mp new]
      intro about inside
      rw [← batch] at inside
      exact kept.store.games about.gameId about (mem_needingEmbedding _ _ about inside)
  | answer place body =>
    simp only [after]
    split
    · rename_i pending asking
      have asked := kept.passes _ (List.mem_of_getElem? asking)
      split
      · rename_i vectors answered
        refine ⟨kept.store,?_⟩
        intro pass member
        rcases List.mem_or_eq_of_mem_set member with old | rfl
        · exact kept.passes pass old
        · exact answers body pending vectors asked answered
      · exact ⟨kept.store,fun pass member => kept.passes pass (List.mem_of_mem_eraseIdx member)⟩
    · exact kept
    · exact kept
  | write place environment cut =>
    simp only [after]
    split
    · rename_i pending vectors answering
      have answered := kept.passes _ (List.mem_of_getElem? answering)
      exact ⟨written_holds environment cut pending vectors enrichment.store answered kept.store,
        fun pass member => kept.passes pass (List.mem_of_mem_eraseIdx member)⟩
    · exact kept
    · exact kept

theorem run_kept (closed : Closed game preference) (backfillLimit : Nat) (embed : Embedder R Body)
    (answers : embed.Answers game) (moves : List (Move R Body)) : (run backfillLimit embed moves).Kept game preference := by
  induction moves using List.reverseRecOn with
  | nil =>
    have store : Memory.Holds game preference ({} : MemoryStore R) :=
      ⟨fun _ _ found => (by cases found),fun _ _ found => (by cases found)⟩
    exact ⟨store,fun _ member => (by cases member)⟩
  | append_singleton earlier last ih =>
    unfold run
    rw [List.foldl_append]
    exact after_kept closed backfillLimit embed answers _ last ih

end Enrichment
end Closed
end Memory
end ArcadiaRecommendation
