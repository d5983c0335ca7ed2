import ArcadiaRecommendation.Memory.Service
import ArcadiaRecommendation.Memory.Serve
import ArcadiaRecommendation.ReadModel.History

/-! A served game was published and not owned when the list was made, and still is
unless an event about it came since. -/
namespace ArcadiaRecommendation

/-- After this event the user may own the game, or the game may be withdrawn. -/
def Event.spoils (userId : UserId) (gameId : GameId) : Event → Bool
  | .gamePublished _ published .. => published = gameId
  | .gameWithdrawn _ withdrawn => withdrawn = gameId
  | .purchaseCompleted _ recipientId bought _ => recipientId = userId ∧ bought = gameId
  | .reviewPosted .. => false

namespace ReadModel
variable {R : Type} [Scalar R] [Casing] {backfillLimit : Nat} {before after : ReadModel R} {event : Event}
  {userId : UserId} {gameId : GameId}

private theorem observed_owned {users : List UserId} {game : GameProfile R} {kind : SignalKind} {at_ : DateTime}
    (observed : before.Observed after users game kind at_)
    (apart : kind = .purchase → userId ∈ users → game.gameId ≠ gameId)
    (unowned : gameId ∉ (before.preferenceOf userId).owned) : gameId ∉ (after.preferenceOf userId).owned := by
  by_cases member : userId ∈ users
  · obtain ⟨tasteDense,_,columns⟩ := UserPreference.observe_ok _ _ _ _ _ (observed.credited member)
    have owned := congrArg UserPreference.owned columns
    simp only at owned
    rw [owned]
    split
    · rename_i purchase
      rw [Finset.mem_union,Finset.mem_singleton]
      intro either
      rcases either with old | new
      · exact unowned old
      · exact apart purchase member new.symm
    · exact unowned
  · rw [preferenceOf_congr (observed.others member)]
    exact unowned

theorem handled_unowned (effect : Effect backfillLimit before after event)
    (calm : event.spoils userId gameId = false) (unowned : gameId ∉ (before.preferenceOf userId).owned) :
    gameId ∉ (after.preferenceOf userId).owned := by
  cases effect with
  | published eventId published developerId title genres tags publishedAt description game users at_ described owed
      games observed recorded =>
    apply observed_owned observed _ unowned
    intro _ _
    have same : game.gameId = published := by
      apply after.gamesKeyed
      rw [games,Function.update_self]
    rw [same]
    exact of_decide_eq_false calm
  | withdrawnUnknown eventId withdrawn unknown games preferences => rwa [preferenceOf_congr (congrFun preferences userId)]
  | withdrawn eventId withdrawn game known games preferences => rwa [preferenceOf_congr (congrFun preferences userId)]
  | purchasedUnknown eventId owner bought occurredAt unknown games preferences =>
    rwa [preferenceOf_congr (congrFun preferences userId)]
  | purchased eventId owner bought occurredAt game at_ known games observed recorded =>
    apply observed_owned observed _ unowned
    intro _ member same
    have both : owner = userId ∧ bought = gameId :=
      ⟨(List.mem_singleton.mp member).symm,(before.gamesKeyed bought game known).symm.trans same⟩
    exact of_decide_eq_false calm both
  | reviewedUnknown eventId author reviewed liked occurredAt unknown games preferences =>
    rwa [preferenceOf_congr (congrFun preferences userId)]
  | reviewed eventId author reviewed liked occurredAt game at_ known games observed =>
    apply observed_owned observed _ unowned
    intro purchase
    cases liked <;> cases purchase

theorem handled_published (effect : Effect backfillLimit before after event)
    (calm : event.spoils userId gameId = false)
    (published : ∃ game, before.games gameId = some game ∧ game.isPublished = true) :
    ∃ game, after.games gameId = some game ∧ game.isPublished = true := by
  obtain ⟨game,found,up⟩ := published
  by_cases own : gameId = event.gameId
  · subst own
    have silent : event.publishes event.gameId = false := by
      cases event with
      | gamePublished => exact calm
      | gameWithdrawn => rfl
      | purchaseCompleted => rfl
      | reviewPosted => rfl
    rw [effect.changed silent,Function.update_self,found]
    refine ⟨event.changes game,rfl,?_⟩
    cases event with
    | gamePublished => exact up
    | gameWithdrawn => simp [Event.spoils,Event.gameId] at calm
    | purchaseCompleted => exact up
    | reviewPosted => exact up
  · exact ⟨game,(effect.other_games own).trans found,up⟩

theorem handled_offered (effect : Effect backfillLimit before after event)
    (calm : event.spoils userId gameId = false) (offered : before.Offered userId gameId) :
    after.Offered userId gameId :=
  ⟨handled_published effect calm offered.1,handled_unowned effect calm offered.2⟩

theorem swept_offered (swept : before.Swept after) (offered : before.Offered userId gameId) :
    after.Offered userId gameId := by
  obtain ⟨⟨game,found,published⟩,unowned⟩ := offered
  constructor
  · have same := swept.games gameId
    rw [found] at same
    obtain ⟨later,present,equal⟩ := Option.map_eq_some_iff.mp same
    have up : later.isPublished = game.isPublished := congrArg (fun sparse => sparse.isPublished) equal
    exact ⟨later,present,up.trans published⟩
  · have owned : (after.preferenceOf userId).owned = (before.preferenceOf userId).owned :=
      congrArg (fun sparse => sparse.owned) (swept.preference userId)
    rwa [owned]

theorem run_offered {start model : ReadModel R} {events : List Event} (run : start.Run backfillLimit events model)
    (calm : ∀ event ∈ events, event.spoils userId gameId = false) (offered : start.Offered userId gameId) :
    model.Offered userId gameId := by
  induction run with
  | start => exact offered
  | handled events event before after earlier step ih =>
    have old := ih fun other member => calm other (List.mem_append_left [event] member)
    exact handled_offered step.effect (calm event (List.mem_append_right events List.mem_cons_self)) old
  | swept events before after earlier step ih => exact swept_offered step (ih calm)

end ReadModel

namespace Memory
variable {R : Type} [Scalar R] [Casing]

def Servable (store : MemoryStore R) (userId : UserId) (gameId : GameId) : Prop :=
  (∃ game, store.games.get gameId = some game ∧ game.isPublished = true) ∧
    gameId ∉ (store.preferenceOf userId).owned

private theorem stored_written (settings : Settings R) (actions : List (Action R)) (userId : UserId) :
    (Service.run settings actions).store.readModel.stored userId = [] ∨
      ∃ earlier action later, actions = earlier ++ action :: later ∧
        (Service.run settings (earlier ++ [action])).store.readModel.stored userId =
          (Service.run settings actions).store.readModel.stored userId ∧
        ∀ item ∈ (Service.run settings actions).store.readModel.stored userId,
          Servable (Service.run settings earlier).store userId item.gameId := by
  induction actions using List.reverseRecOn with
  | nil => exact .inl rfl
  | append_singleton before action ih =>
    have unchanged (same : (Service.run settings (before ++ [action])).store.readModel.stored userId =
        (Service.run settings before).store.readModel.stored userId) :
        (Service.run settings (before ++ [action])).store.readModel.stored userId = [] ∨
          ∃ earlier writer later, before ++ [action] = earlier ++ writer :: later ∧
            (Service.run settings (earlier ++ [writer])).store.readModel.stored userId =
              (Service.run settings (before ++ [action])).store.readModel.stored userId ∧
            ∀ item ∈ (Service.run settings (before ++ [action])).store.readModel.stored userId,
              Servable (Service.run settings earlier).store userId item.gameId := by
      rw [same]
      rcases ih with empty | ⟨earlier,writer,later,split,written,offered⟩
      · exact .inl empty
      · exact .inr ⟨earlier,writer,later ++ [action],by rw [split,List.append_assoc,List.cons_append],written,offered⟩
    cases Service.run_moved settings before action with
    | idle handled store => exact unchanged (by rw [store])
    | handled event handled step => exact unchanged (congrFun step.stored userId)
    | swept handled step =>
      rcases step.stored userId with same | fresh
      · exact unchanged same
      · exact .inr ⟨before,action,[],rfl,rfl,fresh⟩

/-- Whatever is served was published and not owned in a state of the run: the one its list
was generated from, or the present one if nothing is stored. It still is, unless the game
was published again, withdrawn or bought by the user since. -/
theorem served_was_servable (settings : Settings R) (actions : List (Action R)) (userId : UserId) (limit : Nat)
    (environment : Environment) :
    ∃ response earlier later since,
      execute environment (ServeRecommendations.execute userId limit) (Service.run settings actions).store =
        (.ok response,(Service.run settings actions).store) ∧
      actions = earlier ++ later ∧
      (listed (Service.run settings actions).store userId limit = [] → later = []) ∧
      (listed (Service.run settings actions).store userId limit ≠ [] → ∃ action rest, later = action :: rest ∧
        (Service.run settings (earlier ++ [action])).store.readModel.stored userId =
          (Service.run settings actions).store.readModel.stored userId) ∧
      (Service.run settings actions).handled = (Service.run settings earlier).handled ++ since ∧
      ∀ item ∈ response.items, ∃ gameId : GameId, item.gameId = gameId.str ∧
        Servable (Service.run settings earlier).store userId gameId ∧
        ((∀ event ∈ since, event.spoils userId gameId = false) →
          Servable (Service.run settings actions).store userId gameId) := by
  obtain ⟨response,ran,items⟩ := execute_serve environment (Service.run settings actions).store userId limit
  by_cases nothing : listed (Service.run settings actions).store userId limit = []
  · refine ⟨response,actions,[],[],ran,(List.append_nil actions).symm,fun _ => rfl,?_,(List.append_nil _).symm,?_⟩
    · intro something
      exact absurd nothing something
    · intro item member
      obtain ⟨gameId,named,source⟩ := items item member
      rw [if_pos nothing] at source
      exact ⟨gameId,named,source,fun _ => source⟩
  · have source : ∃ earlier action later, actions = earlier ++ action :: later ∧
        (Service.run settings (earlier ++ [action])).store.readModel.stored userId =
          (Service.run settings actions).store.readModel.stored userId ∧
        ∀ item ∈ (Service.run settings actions).store.readModel.stored userId,
          Servable (Service.run settings earlier).store userId item.gameId := by
      rcases stored_written settings actions userId with empty | written
      · exact absurd (listed_empty _ userId limit empty) nothing
      · exact written
    obtain ⟨earlier,action,later,split,written,servable⟩ := source
    obtain ⟨since,handled,reached⟩ := Service.run_refines settings earlier (action :: later)
    rw [← split] at handled reached
    refine ⟨response,earlier,action :: later,since,ran,split,?_,fun _ => ⟨action,later,rfl,written⟩,handled,?_⟩
    · intro empty
      exact absurd empty nothing
    · intro item member
      obtain ⟨gameId,named,kept⟩ := items item member
      rw [if_neg nothing] at kept
      obtain ⟨recommendation,inside,same⟩ := kept
      have before := servable recommendation inside
      rw [same] at before
      exact ⟨gameId,named,before,fun calm => ReadModel.run_offered reached calm before⟩

end Memory

namespace Memory
attribute [local instance] Casing.unchanged

def rallyPublished : Action ℚ := .ingest (.gamePublished ⟨4⟩ ⟨⟨2⟩⟩ ⟨⟨9⟩⟩ "Rally" ["racing"] [] none "") .fixed

def rallyWithdrawn : Action ℚ := .ingest (.gameWithdrawn ⟨5⟩ ⟨⟨2⟩⟩) .fixed

def racerGenerated : Action ℚ := .generate deployed.refresh.generation ⟨⟨1⟩⟩ 10 .fixed

/-- A game withdrawn after the list was generated is served until the next sweep. -/
theorem withdrawn_game_served : ¬∀ (actions : List (Action ℚ)) (userId : UserId) (limit : Nat)
    (response : RecommendationsResponse ℚ), 1 ≤ limit →
      (execute .fixed (ServeRecommendations.execute userId limit) (Service.run deployed actions).store).1 =
        .ok response →
      ∀ item ∈ response.items, ∃ gameId : GameId, item.gameId = gameId.str ∧
        Servable (Service.run deployed actions).store userId gameId := by
  intro claim
  have served : (execute .fixed (ServeRecommendations.execute ⟨⟨1⟩⟩ 10) (Service.run deployed
      [racePublished,rallyPublished,racePurchased,racerGenerated,rallyWithdrawn]).store).1.map
        (fun response => response.items.map fun item => item.gameId) = .ok [(⟨⟨2⟩⟩ : GameId).str] := by
    decide +kernel
  have withdrawn : ((Service.run deployed [racePublished,rallyPublished,racePurchased,racerGenerated,
      rallyWithdrawn]).store.games.get ⟨⟨2⟩⟩).map (fun game => game.isPublished) = some false := by
    decide +kernel
  cases ran : (execute .fixed (ServeRecommendations.execute ⟨⟨1⟩⟩ 10) (Service.run deployed
      [racePublished,rallyPublished,racePurchased,racerGenerated,rallyWithdrawn]).store).1 with
  | error fault =>
    rw [ran] at served
    cases served
  | ok response =>
    rw [ran] at served
    have named : response.items.map (fun item => item.gameId) = [(⟨⟨2⟩⟩ : GameId).str] := Except.ok.inj served
    have first : (⟨⟨2⟩⟩ : GameId).str ∈ response.items.map fun item => item.gameId := by
      rw [named]
      exact List.mem_cons_self
    obtain ⟨item,member,same⟩ := List.mem_map.mp first
    obtain ⟨gameId,text,⟨game,found,published⟩,_⟩ := claim _ ⟨⟨1⟩⟩ 10 response (by omega) ran item member
    have rally : gameId = ⟨⟨2⟩⟩ := GameId.str_injective _ _ (text.symm.trans same)
    rw [rally] at found
    rw [found] at withdrawn
    rw [Option.map_some,published] at withdrawn
    cases withdrawn

end Memory
end ArcadiaRecommendation
