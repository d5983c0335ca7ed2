import ArcadiaRecommendation.Application.SimilarGames
import ArcadiaRecommendation.Properties.Reasons
import ArcadiaRecommendation.Properties.Vectors

/-! What the rail of similar games shows. Labels count once, so two games are as close as the share
of their labels that they have in common, and the rail names exactly these labels. -/
namespace ArcadiaRecommendation

/-- The common elements of two sets, against the geometric mean of their sizes. -/
def closeness {A R : Type} [DecidableEq A] [RealScalar R] (first second : Finset A) : R :=
  ((first ∩ second).card : R) / (Scalar.sqrt (first.card : R) * Scalar.sqrt (second.card : R))

private theorem closeness_pos_iff {A R : Type} [DecidableEq A] [RealScalar R] (first second : Finset A) :
    0 < (closeness first second : R) ↔ (first ∩ second).Nonempty := by
  have root (items : Finset A) (some : items.Nonempty) : 0 < Scalar.sqrt (items.card : R) := by
    have size : (0 : R) < (items.card : R) := Nat.cast_pos.mpr some.card_pos
    refine lt_of_le_of_ne (RealScalar.sqrt_nonneg _) fun zero => ?_
    have square := RealScalar.sqrt_square (items.card : R) size.le
    rw [← zero,mul_zero] at square
    exact size.ne square
  constructor
  · intro positive
    by_contra none
    rw [Finset.not_nonempty_iff_eq_empty] at none
    unfold closeness at positive
    rw [none,Finset.card_empty,Nat.cast_zero,zero_div] at positive
    exact lt_irrefl 0 positive
  · rintro ⟨name,both⟩
    obtain ⟨left,right⟩ := Finset.mem_inter.mp both
    exact div_pos (Nat.cast_pos.mpr (Finset.card_pos.mpr ⟨name,both⟩)) (mul_pos (root first ⟨name,left⟩) (root second ⟨name,right⟩))

section
variable {R : Type} [RealScalar R]

def Embedding.names (vector : Embedding R) : Finset String := vector.weights.keys.toFinset

/-- Every feature that is there counts once. -/
def Embedding.Even (vector : Embedding R) : Prop := ∀ name ∈ vector.names, vector.coordinate name = 1

namespace Embedding

private theorem coordinate_even (vector : Embedding R) (even : vector.Even) (name : String) :
    vector.coordinate name = if name ∈ vector.names then 1 else 0 := by
  split
  · exact even name ‹_›
  · rename_i absent
    exact vector.coordinate_absent name fun member => absent (List.mem_toFinset.mpr member)

private theorem even_of (features : List String) : (of features : Embedding R).Even := by
  intro name member
  rw [coordinate_of]
  by_contra differs
  have absent : name ∉ features := fun listed => differs (if_pos listed)
  have unit : Scalar.isZero (Scalar.literal 1 : R) = false := by
    apply Bool.eq_false_of_not_eq_true
    rw [ExactScalar.isZero_eq,ExactScalar.literal_eq,Rat.cast_one]
    exact one_ne_zero
  obtain ⟨value,found⟩ := (Dict.mem_keys _ name).mp (List.mem_toFinset.mp member)
  rw [get_of unit,if_neg absent] at found
  cases found

private theorem dot_even (first second : Embedding R) (left : first.Even) (right : second.Even) (places : Finset String)
    (enough : first.Within places) :
    Similarity.dot places first.coordinate second.coordinate = ((first.names ∩ second.names).card : R) := by
  have common : first.names ∩ second.names = places.filter fun name => name ∈ first.names ∧ name ∈ second.names := by
    ext name
    rw [Finset.mem_inter,Finset.mem_filter]
    exact ⟨fun both => ⟨enough name (List.mem_toFinset.mp both.1),both⟩,And.right⟩
  unfold Similarity.dot
  rw [common,Finset.card_filter,Nat.cast_sum]
  apply Finset.sum_congr rfl
  intro name _
  rw [first.coordinate_even left,second.coordinate_even right]
  by_cases inFirst : name ∈ first.names <;> by_cases inSecond : name ∈ second.names <;> simp [inFirst,inSecond]

private theorem magnitude_even (vector : Embedding R) (even : vector.Even) :
    vector.magnitude = Scalar.sqrt (vector.names.card : R) := by
  have within : vector.Within vector.names := fun name member => List.mem_toFinset.mpr member
  have size := vector.dot_even vector even even vector.names within
  rw [Finset.inter_self] at size
  have root : Similarity.IsNorm vector.names vector.coordinate (Scalar.sqrt (vector.names.card : R)) :=
    ⟨RealScalar.sqrt_nonneg _,by rw [size,RealScalar.sqrt_square _ (Nat.cast_nonneg _)]⟩
  exact (vector.magnitude_norm vector.names within).unique root

private theorem cosine_even (first second : Embedding R) (left : first.Even) (right : second.Even) :
    first.cosine second = closeness first.names second.names := by
  obtain ⟨within,_⟩ := first.within_places second
  rw [first.cosine_quotient second _ within,Similarity.quotient,first.dot_even second left right _ within,
    first.magnitude_even left,second.magnitude_even right]
  rfl

private theorem mem_overlap_even (first second : Embedding R) (left : first.Even) (right : second.Even)
    (name : String) : name ∈ first.overlap second ↔ name ∈ first.names ∩ second.names := by
  rw [mem_overlap,first.coordinate_even left,second.coordinate_even right,Finset.mem_inter]
  by_cases inFirst : name ∈ first.names <;> by_cases inSecond : name ∈ second.names <;> simp [inFirst,inSecond]

/-- Equal weights leave the alphabet to order the names. -/
theorem overlap_even (first second : Embedding R) (left : first.Even) (right : second.Even) :
    (first.overlap second).Pairwise (· < ·) := by
  refine (first.overlap_ordered second).imp_of_mem ?_
  intro one other inOne inOther before
  rw [first.mem_overlap_even second left right,Finset.mem_inter] at inOne inOther
  rw [left one inOne.1,left other inOther.1] at before
  exact (before.resolve_left (lt_irrefl 1)).2

end Embedding

variable [Casing]

/-- A label of the game that is not blank has this feature. -/
def GameProfile.Carries (game : GameProfile R) (name : String) : Prop :=
  (∃ genre ∈ game.genres, Text.strip genre ≠ "" ∧ feature "genre" genre = .ok name) ∨
    ∃ tag ∈ game.tags, Text.strip tag ≠ "" ∧ feature "tag" tag = .ok name

private theorem embedded_even (game : GameProfile R) (embedded : embed game.genres game.tags = .ok game.embedding) :
    game.embedding.Even ∧ ∀ name, name ∈ game.embedding.names ↔ game.Carries name := by
  obtain ⟨features,made,named⟩ := embed_of game.genres game.tags game.embedding embedded
  have even : game.embedding.Even := by
    rw [made]
    exact Embedding.even_of features
  refine ⟨even,fun name => ?_⟩
  have here := game.embedding.coordinate_even even name
  rw [made,Embedding.coordinate_of,← made] at here
  unfold GameProfile.Carries
  rw [← named]
  by_cases inside : name ∈ game.embedding.names <;> by_cases feature : name ∈ features <;> simp_all

namespace ListSimilarGames

theorem precedes_preorders : Preorders (precedes (R := R)) := by
  have ties := Preorders.byCount (fun entry : GameProfile R × R => entry.1.purchaseCount)
    (fun first second => first.1.gameId.str ≤ second.1.gameId.str) (Preorders.of_text _)
  have closest := Preorders.descending _ Prod.snd ties
  unfold precedes
  simpa only [ExactScalar.less_eq,ExactScalar.not_less] using closest

/-- Another game that carries a label of the subject. -/
def Related (subject game : GameProfile R) : Prop :=
  game.gameId ≠ subject.gameId ∧ ∃ name, subject.Carries name ∧ game.Carries name

/-- The earlier of two games shares more with the subject, or as much and was bought more often. -/
def Closer (subject first second : GameProfile R) : Prop :=
  let near : GameProfile R → R := fun game => closeness subject.embedding.names game.embedding.names
  near second < near first ∨ near first = near second ∧ (second.purchaseCount < first.purchaseCount ∨
    first.purchaseCount = second.purchaseCount ∧ first.gameId.str < second.gameId.str)

/-- The rail shows the closest of the scanned games, each with the labels both carry. -/
structure Rail (subject : GameProfile R) (scanned : List (GameProfile R)) (limit : Nat) (games : List (GameProfile R))
    (items : List (SimilarGame R)) : Prop where
  shown : items = games.map fun game =>
    { gameId := game.gameId.str
      title := game.title
      genres := game.genres
      similarity := Scalar.round6 (closeness subject.embedding.names game.embedding.names)
      sharedFeatures := subject.embedding.overlap game.embedding }
  within : ∀ game ∈ games, game ∈ scanned ∧ Related subject game
  ordered : games.Pairwise (Closer subject)
  few : games.length ≤ limit
  full : ∀ game ∈ scanned, Related subject game → game ∉ games →
    games.length = limit ∧ ∀ other ∈ games, Closer subject other game
  explained : ∀ game ∈ games, ∀ name,
    name ∈ subject.embedding.overlap game.embedding ↔ subject.Carries name ∧ game.Carries name
  alphabetical : ∀ game ∈ games, (subject.embedding.overlap game.embedding).Pairwise (· < ·)

section
variable {subject : GameProfile R} {candidates : List (GameProfile R)}
  (embedded : embed subject.genres subject.tags = .ok subject.embedding)
  (all : ∀ game ∈ candidates, embed game.genres game.tags = .ok game.embedding)
include embedded all

private theorem mem_scored (entry : GameProfile R × R) : entry ∈ scored subject subject.gameId candidates ↔
    entry.1 ∈ candidates ∧ Related subject entry.1 ∧ entry.2 = closeness subject.embedding.names entry.1.embedding.names := by
  obtain ⟨game,score⟩ := entry
  obtain ⟨even,carries⟩ := embedded_even subject embedded
  have near (game : GameProfile R) (member : game ∈ candidates) :
      subject.embedding.cosine game.embedding = closeness subject.embedding.names game.embedding.names ∧
        (0 < (closeness subject.embedding.names game.embedding.names : R) ↔
          ∃ name, subject.Carries name ∧ game.Carries name) := by
    obtain ⟨alsoEven,alsoCarries⟩ := embedded_even game (all game member)
    refine ⟨subject.embedding.cosine_even game.embedding even alsoEven,?_⟩
    rw [closeness_pos_iff]
    constructor
    · rintro ⟨name,both⟩
      obtain ⟨left,right⟩ := Finset.mem_inter.mp both
      exact ⟨name,(carries name).mp left,(alsoCarries name).mp right⟩
    · rintro ⟨name,left,right⟩
      exact ⟨name,Finset.mem_inter.mpr ⟨(carries name).mpr left,(alsoCarries name).mpr right⟩⟩
  unfold scored
  rw [List.mem_filter,List.mem_map,ExactScalar.less_eq]
  constructor
  · rintro ⟨⟨known,member,made⟩,positive⟩
    cases made
    obtain ⟨candidate,apart⟩ := List.mem_filter.mp member
    obtain ⟨cosine,related⟩ := near game candidate
    exact ⟨candidate,⟨of_decide_eq_true apart,related.mp (cosine ▸ positive)⟩,cosine⟩
  · rintro ⟨candidate,⟨apart,related⟩,same⟩
    obtain ⟨cosine,positive⟩ := near game candidate
    dsimp only at same ⊢
    rw [same]
    exact ⟨⟨game,List.mem_filter.mpr ⟨candidate,decide_eq_true apart⟩,by rw [cosine]⟩,positive.mpr related⟩

private theorem closer_of_precedes (distinct : (candidates.map (·.gameId)).Nodup) (first second : GameProfile R × R)
    (inFirst : first ∈ scored subject subject.gameId candidates) (inSecond : second ∈ scored subject subject.gameId candidates)
    (apart : first ≠ second) (before : precedes first second) : Closer subject first.1 second.1 := by
  obtain ⟨candidate,_,left⟩ := (mem_scored embedded all first).mp inFirst
  obtain ⟨also,_,right⟩ := (mem_scored embedded all second).mp inSecond
  unfold precedes at before
  rw [ExactScalar.less_eq,ExactScalar.not_less,left,right] at before
  unfold Closer
  rcases before with more | ⟨level,ties⟩
  · exact .inl more
  rcases level.lt_or_eq with more | same
  · exact .inl more
  refine .inr ⟨same.symm,ties.imp id fun ⟨bought,text⟩ => ⟨bought,?_⟩⟩
  refine String.not_le.mp fun back => apart ?_
  have equal : first.1.gameId = second.1.gameId := GameId.str_injective _ _ (String.le_antisymm text back)
  have profile : first.1 = second.1 := List.inj_on_of_nodup_map distinct candidate also equal
  exact Prod.ext profile (by rw [left,right,profile])

end

private theorem ranked_rail (subject : GameProfile R) (candidates : List (GameProfile R)) (limit : Nat)
    (distinct : (candidates.map (·.gameId)).Nodup) (embedded : embed subject.genres subject.tags = .ok subject.embedding)
    (all : ∀ game ∈ candidates, embed game.genres game.tags = .ok game.embedding) :
    Rail subject candidates limit ((ranked subject subject.gameId candidates limit).map Prod.fst)
      ((ranked subject subject.gameId candidates limit).map (sparseItem subject)) := by
  have taken : ranked subject subject.gameId candidates limit =
      selected precedes limit (scored subject subject.gameId candidates) := rfl
  rw [taken]
  have kept (entry : GameProfile R × R) (member : entry ∈ selected precedes limit (scored subject subject.gameId candidates)) :=
    mem_selected precedes limit _ entry member
  have entries : (scored subject subject.gameId candidates).Nodup := by
    have games : ((candidates.filter (·.gameId ≠ subject.gameId)).map fun candidate =>
        (candidate,subject.embedding.cosine candidate.embedding)).Nodup := by
      apply List.Nodup.of_map Prod.fst
      rw [List.map_map]
      have read : Prod.fst ∘ (fun candidate : GameProfile R => (candidate,subject.embedding.cosine candidate.embedding)) =
          id := rfl
      rw [read,List.map_id]
      exact distinct.of_map.filter _
    exact games.filter _
  have closest : (selected precedes limit (scored subject subject.gameId candidates)).Pairwise fun first second =>
      Closer subject first.1 second.1 := by
    have different : (selected precedes limit (scored subject subject.gameId candidates)).Nodup :=
      ((List.perm_insertionSort _ _).nodup_iff.mpr entries).sublist (List.take_sublist limit _)
    refine ((precedes_preorders.selected_sorted limit _).and different).imp_of_mem ?_
    intro first second inFirst inSecond both
    exact closer_of_precedes embedded all distinct first second (kept first inFirst) (kept second inSecond) both.2 both.1
  have place (game : GameProfile R) (member : game ∈ (selected precedes limit (scored subject subject.gameId
      candidates)).map Prod.fst) : game ∈ candidates ∧ Related subject game := by
    obtain ⟨entry,inside,rfl⟩ := List.mem_map.mp member
    obtain ⟨candidate,related,_⟩ := (mem_scored embedded all entry).mp (kept entry inside)
    exact ⟨candidate,related⟩
  obtain ⟨even,carries⟩ := embedded_even subject embedded
  constructor
  · rw [List.map_map]
    apply List.map_congr_left
    intro entry member
    obtain ⟨_,_,score⟩ := (mem_scored embedded all entry).mp (kept entry member)
    unfold sparseItem
    rw [score]
    rfl
  · exact place
  · exact List.pairwise_map.mpr closest
  · rw [List.length_map,length_selected]
    exact Nat.min_le_left _ _
  · intro game scanned related out
    let entry : GameProfile R × R := (game,closeness subject.embedding.names game.embedding.names)
    have listed : entry ∈ scored subject subject.gameId candidates := (mem_scored embedded all entry).mpr ⟨scanned,related,rfl⟩
    have missing : entry ∉ selected precedes limit (scored subject subject.gameId candidates) :=
      fun inside => out (List.mem_map.mpr ⟨entry,inside,rfl⟩)
    refine ⟨?_,fun other member => ?_⟩
    · rw [List.length_map,length_selected]
      by_contra short
      have room : (scored subject subject.gameId candidates).length ≤ limit := by omega
      rw [selected_all precedes limit _ room] at missing
      exact missing ((List.mem_insertionSort precedes).mpr listed)
    · obtain ⟨ahead,inside,rfl⟩ := List.mem_map.mp member
      apply closer_of_precedes embedded all distinct ahead entry (kept ahead inside) listed
      · rintro rfl
        exact missing inside
      · exact precedes_preorders.left_out limit _ entry ahead listed missing inside
  · intro game member name
    obtain ⟨alsoEven,alsoCarries⟩ := embedded_even game (all game (place game member).1)
    rw [subject.embedding.mem_overlap_even game.embedding even alsoEven,Finset.mem_inter,carries,alsoCarries]
  · intro game member
    exact subject.embedding.overlap_even game.embedding even (embedded_even game (all game (place game member).1)).1

end ListSimilarGames
end

namespace Memory
variable {R : Type} [Scalar R] [Casing] {Body : Type}

private theorem sparse_closed :
    Closed (fun game : GameProfile R => ArcadiaRecommendation.embed game.genres game.tags = .ok game.embedding)
    fun _ => True where
  described existing gameId developerId title genres tags publishedAt description made _ described := by
    obtain ⟨_,_,_,sameGenres,sameTags,labels,_⟩ :=
      HandleGamePublished.describe_ok existing gameId developerId title genres tags publishedAt description made described
    rw [sameGenres,sameTags]
    exact labels
  bought _ sparse := sparse
  withdrawn _ sparse := sparse
  blank _ := trivial
  observed _ _ _ _ _ _ _ _ := trivial
  rebuilt _ _ _ _ _ _ := trivial

private theorem stored_sparse (backfillLimit : Nat) (embed : Embedder R Body) (moves : List (Move R Body))
    (gameId : GameId) (game : GameProfile R)
    (stored : (Enrichment.run backfillLimit embed moves).store.games.get gameId = some game) :
    ArcadiaRecommendation.embed game.genres game.tags = .ok game.embedding := by
  refine (Enrichment.run_kept sparse_closed backfillLimit embed ?_ moves).store.games gameId game stored
  intro body pending vectors sparse _ pair member
  exact sparse pair.1 (List.of_mem_zip member).1

theorem similar_unknown (environment : Environment) (nearestTo : NearestTo R) (catalogueLimit : Nat) (denseSpace : Bool)
    (gameId : GameId) (limit : Nat) (store : MemoryStore R) (unknown : store.games.get gameId = none) :
    (execute environment (ListSimilarGames.execute nearestTo catalogueLimit denseSpace gameId limit) store).1 =
      .ok (.error ⟨"game " ++ gameId.str ++ " is not known to this service"⟩) := by
  have missing : (({ store } : Session R).games.get gameId).or (store.games.get gameId) = none := unknown
  unfold execute ListSimilarGames.execute
  simp only [Program.bind_eq,Program.call_bind,Program.done_bind,Program.run_call,handle,missing]
  rfl

theorem similar_known (environment : Environment) (nearestTo : NearestTo R) (catalogueLimit : Nat) (gameId : GameId)
    (limit : Nat) (store : MemoryStore R) (subject : GameProfile R) (known : store.games.get gameId = some subject) :
    (execute environment (ListSimilarGames.execute nearestTo catalogueLimit false gameId limit) store).1 =
      .ok (.ok ⟨gameId.str,(ListSimilarGames.ranked subject gameId (recommendable store.games catalogueLimit) limit).map
        (ListSimilarGames.sparseItem subject)⟩) := by
  have found : (({ store } : Session R).games.get gameId).or (store.games.get gameId) = some subject := known
  unfold execute ListSimilarGames.execute
  simp only [Program.bind_eq,Program.call_bind,Program.done_bind,Program.run_call,handle,found]
  rfl

end Memory

section
variable {R : Type} [RealScalar R] [Casing] {Body : Type}

/-- In every reachable state a known game has a rail of the games of the scan that are closest to it
in exact real arithmetic, and an unknown one is not found. -/
theorem similar_games_rail (backfillLimit : Nat) (embed : Memory.Embedder R Body) (moves : List (Memory.Move R Body))
    (environment : Environment) (nearestTo : NearestTo R) (catalogueLimit : Nat) (gameId : GameId) (limit : Nat) :
    let store := (Memory.Enrichment.run backfillLimit embed moves).store
    let answer := (Memory.execute environment (ListSimilarGames.execute nearestTo catalogueLimit false gameId limit) store).1
    (answer = .ok (.error ⟨"game " ++ gameId.str ++ " is not known to this service"⟩) ↔ store.games.get gameId = none) ∧
      ∀ subject, store.games.get gameId = some subject → ∃ games items, answer = .ok (.ok ⟨gameId.str,items⟩) ∧
        ListSimilarGames.Rail subject (Memory.recommendable store.games catalogueLimit) limit games items := by
  intro store answer
  have sparse := Memory.stored_sparse backfillLimit embed moves
  have known (subject : GameProfile R) (stored : store.games.get gameId = some subject) :=
    Memory.similar_known environment nearestTo catalogueLimit gameId limit store subject stored
  constructor
  · constructor
    · intro lost
      cases stored : store.games.get gameId with
      | none => rfl
      | some subject => cases lost.symm.trans (known subject stored)
    · exact Memory.similar_unknown environment nearestTo catalogueLimit false gameId limit store
  · intro subject stored
    have own : subject.gameId = gameId := store.games.keyed gameId subject stored
    have rail := ListSimilarGames.ranked_rail subject (Memory.recommendable store.games catalogueLimit) limit
      (Memory.selected_distinct store.games (·.isPublished) catalogueLimit) (sparse gameId subject stored)
      fun game member => sparse game.gameId game (Memory.mem_recommendable _ _ game member)
    rw [own] at rail
    exact ⟨_,_,known subject stored,rail⟩

end
end ArcadiaRecommendation
