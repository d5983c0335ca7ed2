import ArcadiaRecommendation.Memory.Refinement
import ArcadiaRecommendation.Properties.MalformedPayloads

/-! Who pays for a gift: two records that differ in the payer alone, handled from one state. -/
namespace ArcadiaRecommendation
open Envelope

/-- Two records of one purchase with a recipient of any form, that differ at most in the payer. -/
structure SameGift {R : Type} [Formats R] (first second : OutboxRecord R) : Prop where
  eventId : eventIdOf first = eventIdOf second
  recipient : ∃ raw, Json.field "recipient_id" (payloadOf first) = some raw
  others : ∀ key, key ≠ "buyer_id" → Json.lookup key (payloadOf first) = Json.lookup key (payloadOf second)

namespace SameGift
variable {R : Type} [Formats R] {first second : OutboxRecord R}

theorem field (gift : SameGift first second) (key : String) (other : key ≠ "buyer_id") :
    Json.field key (payloadOf first) = Json.field key (payloadOf second) := by
  unfold Json.field
  rw [gift.others key other]

theorem gameId (gift : SameGift first second) : gameIdOf (payloadOf first) = gameIdOf (payloadOf second) := by
  unfold gameIdOf
  rw [gift.field "game_id" (by decide)]

theorem recipientId (gift : SameGift first second) :
    userIdOf (payloadOf first) "recipient_id" = userIdOf (payloadOf second) "recipient_id" := by
  unfold userIdOf
  rw [gift.field "recipient_id" (by decide)]

theorem alike (gift : SameGift first second) (record : OutboxRecord R) (listed : record = first ∨ record = second) :
    eventIdOf record = eventIdOf first ∧ gameIdOf (payloadOf record) = gameIdOf (payloadOf first) ∧
      userIdOf (payloadOf record) "recipient_id" = userIdOf (payloadOf first) "recipient_id" := by
  rcases listed with rfl | rfl
  · exact ⟨rfl,rfl,rfl⟩
  · exact ⟨gift.eventId.symm,gift.gameId.symm,gift.recipientId.symm⟩

end SameGift

namespace Memory
variable {R : Type} [Scalar R] [Casing]

structure Unaffected (before after : MemoryStore R) (userId : UserId) : Prop where
  preference : after.readModel.preferences userId = before.readModel.preferences userId
  ownership : after.readModel.ownership userId = before.readModel.ownership userId

structure SameModel (first second : MemoryStore R) : Prop where
  games : first.readModel.games = second.readModel.games
  preferences : first.readModel.preferences = second.readModel.preferences
  ownership : first.readModel.ownership = second.readModel.ownership

private theorem SameModel.unaffected {before after : MemoryStore R} (same : SameModel after before) (userId : UserId) :
    Unaffected before after userId := ⟨congrFun same.preferences userId,congrFun same.ownership userId⟩

private theorem SameModel.meet {first second third : MemoryStore R} (left : SameModel first third)
    (right : SameModel second third) : SameModel first second :=
  ⟨left.games.trans right.games.symm,left.preferences.trans right.preferences.symm,
    left.ownership.trans right.ownership.symm⟩

variable [Formats R]

def purchaseHandled (environment : Environment) (record : OutboxRecord R) (store : MemoryStore R) : MemoryStore R :=
  (execute environment (PurchaseCompletedHandler.call record) store).2

structure Credits (record : OutboxRecord R) (store : MemoryStore R) (userId : UserId) (gameId : GameId) : Prop where
  fresh : ∃ eventId, eventIdOf record = .ok eventId ∧ eventId ∉ store.processedEvents
  user : (userIdOf (payloadOf record) "recipient_id").or (userIdOf (payloadOf record) "buyer_id") = some userId
  game : gameIdOf (payloadOf record) = some gameId

private theorem purchaseHandled_event (environment : Environment) (record : OutboxRecord R) (store : MemoryStore R)
    (eventId : UUID) (identified : eventIdOf record = .ok eventId) : purchaseHandled environment record store =
      (execute environment (((Consumer.purchaseCompleted.event record eventId).map fun event =>
        event.execute deployedBackfillLimit).getD (.done ())) store).2 := by
  rw [← Consumer.purchaseCompleted.call_event deployedBackfillLimit record eventId identified]
  rfl

private theorem purchase_event (record : OutboxRecord R) (eventId : UUID) (userId : UserId) (gameId : GameId)
    (user : (userIdOf (payloadOf record) "recipient_id").or (userIdOf (payloadOf record) "buyer_id") = some userId)
    (game : gameIdOf (payloadOf record) = some gameId) : ∃ occurredAt, Consumer.purchaseCompleted.event record eventId =
      some (.purchaseCompleted eventId userId gameId occurredAt) := by
  simp only [Consumer.event,user,game]
  exact ⟨_,rfl⟩

private theorem purchaseHandled_uncredited (environment : Environment) (record : OutboxRecord R) (store : MemoryStore R)
    (nobody : ∀ userId gameId, ¬Credits record store userId gameId) :
    purchaseHandled environment record store = store := by
  cases identified : eventIdOf record with
  | error fault =>
    simp only [purchaseHandled,PurchaseCompletedHandler.call,identified]
    split <;> rfl
  | ok eventId =>
    rw [purchaseHandled_event environment record store eventId identified]
    cases made : Consumer.purchaseCompleted.event record eventId with
    | none => rfl
    | some event =>
      have named := made
      simp only [Consumer.event,Option.bind_eq_bind,Option.bind_eq_some_iff] at named
      obtain ⟨userId,user,gameId,game,same⟩ := named
      have seen : eventId ∈ store.processedEvents := by
        by_contra fresh
        exact nobody userId gameId ⟨⟨eventId,identified,fresh⟩,user,game⟩
      rw [Option.map_some,Option.getD_some,execute_ingest,ingest,(Consumer.event_titled _ record eventId event made).2,
        if_pos seen]
      rfl

private theorem purchaseHandled_unidentified (environment : Environment) (record : OutboxRecord R)
    (store : MemoryStore R) (fault : Fault) (identified : eventIdOf record = .error fault) :
    purchaseHandled environment record store = store := by
  apply purchaseHandled_uncredited
  intro userId gameId credits
  obtain ⟨eventId,known,_⟩ := credits.fresh
  rw [identified] at known
  cases known

private theorem OneWidth.purchaseHandled_credited {width : Nat} {store : MemoryStore R} (one : OneWidth width store)
    (environment : Environment) (record : OutboxRecord R) (userId : UserId) (gameId : GameId)
    (credits : Credits record store userId gameId) : ∃ eventId occurredAt, store.readModel.Handled deployedBackfillLimit
      (purchaseHandled environment record store).readModel (.purchaseCompleted eventId userId gameId occurredAt) := by
  obtain ⟨eventId,identified,fresh⟩ := credits.fresh
  obtain ⟨occurredAt,made⟩ := purchase_event record eventId userId gameId credits.user credits.game
  refine ⟨eventId,occurredAt,?_⟩
  rw [purchaseHandled_event environment record store eventId identified,made,Option.map_some,Option.getD_some]
  obtain ⟨after,done⟩ := (one.effect_total_iff deployedBackfillLimit environment
    (.purchaseCompleted eventId userId gameId occurredAt) trivial).mpr trivial
  have ran := execute_ingest deployedBackfillLimit environment (.purchaseCompleted eventId userId gameId occurredAt) store
  have unseen : (Event.purchaseCompleted eventId userId gameId occurredAt).eventId ∉ store.processedEvents := fresh
  rw [ingest,if_neg unseen,done] at ran
  have handled := execute_returned deployedBackfillLimit environment _ store _ ran
  rw [if_neg unseen] at handled
  rw [ran]
  exact handled

structure PayerIndependent (environment : Environment) (store : MemoryStore R) (first second : OutboxRecord R) : Prop where
  same : SameModel (purchaseHandled environment first store) (purchaseHandled environment second store)
  payer : ∀ record, record = first ∨ record = second → ∀ buyer, userIdOf (payloadOf record) "buyer_id" = some buyer →
    userIdOf (payloadOf record) "recipient_id" ≠ some buyer →
    Unaffected store (purchaseHandled environment record store) buyer

private theorem OneWidth.unaffected_iff {width : Nat} {store : MemoryStore R} (one : OneWidth width store)
    (environment : Environment) (record : OutboxRecord R) (userId : UserId) (gameId : GameId)
    (credits : Credits record store userId gameId) :
    Unaffected store (purchaseHandled environment record store) userId ↔
      store.games.get gameId = none ∧ (flag store.ownerships userId gameId).isSome = true := by
  obtain ⟨eventId,occurredAt,handled⟩ := one.purchaseHandled_credited environment record userId gameId credits
  cases handled.effect with
  | purchasedUnknown _ _ _ _ unknown games preferences recorded =>
    have row := recorded userId gameId
    rw [if_pos ⟨rfl,List.mem_singleton.mpr rfl⟩,Bool.or_false] at row
    have known : store.games.get gameId = none := unknown
    constructor
    · intro same
      refine ⟨known,?_⟩
      rw [congrFun same.ownership gameId] at row
      have flagged : flag store.ownerships userId gameId = some _ := row
      rw [flagged]
      rfl
    · rintro ⟨_,has⟩
      refine ⟨congrFun preferences userId,funext fun other => ?_⟩
      have own := recorded userId other
      rw [own]
      split
      · rename_i here
        obtain ⟨counted,flagged⟩ := Option.isSome_iff_exists.mp has
        have stored : store.readModel.ownership userId gameId = some counted := flagged
        rw [here.1,stored,Option.getD_some,Bool.or_false]
      · rfl
  | purchased _ _ _ _ game at_ known games observed recorded =>
    have own := observed userId
    rw [if_pos (List.mem_singleton.mpr rfl)] at own
    obtain ⟨preference,folded,written⟩ := own
    refine iff_of_false (fun same => ?_) (fun both => ?_)
    · have before : store.readModel.preferences userId = some preference := same.preference.symm.trans written
      obtain ⟨_,_,counted⟩ := UserPreference.observe_ok _ preference game .purchase at_ folded
      have current : store.readModel.preferenceOf userId = preference := by
        unfold ReadModel.preferenceOf
        rw [before]
        rfl
      have count := congrArg UserPreference.signalCount counted
      rw [current] at count
      exact absurd count (by simp)
    · have found : store.games.get gameId = some game := known
      rw [both.1] at found
      cases found

private theorem OneWidth.sameModel_again {width : Nat} {store : MemoryStore R} (one : OneWidth width store)
    (environment : Environment) (record : OutboxRecord R) (again : ∀ userId gameId, Credits record store userId gameId →
      store.games.get gameId = none ∧ (flag store.ownerships userId gameId).isSome = true) :
    SameModel (purchaseHandled environment record store) store := by
  by_cases somebody : ∃ userId gameId, Credits record store userId gameId
  · obtain ⟨userId,gameId,credits⟩ := somebody
    have settled := (one.unaffected_iff environment record userId gameId credits).mpr (again userId gameId credits)
    obtain ⟨eventId,occurredAt,handled⟩ := one.purchaseHandled_credited environment record userId gameId credits
    cases handled.effect with
    | purchasedUnknown _ _ _ _ unknown games preferences recorded =>
      refine ⟨games,preferences,funext fun other => ?_⟩
      by_cases own : other = userId
      · rw [own,settled.ownership]
      · funext about
        rw [recorded other about,if_neg fun both => own (List.mem_singleton.mp both.2)]
    | purchased _ _ _ _ game at_ known games observed recorded =>
      have found : store.games.get gameId = some game := known
      rw [(again userId gameId credits).1] at found
      cases found
  · rw [purchaseHandled_uncredited environment record store fun userId gameId credits =>
      somebody ⟨userId,gameId,credits⟩]
    exact ⟨rfl,rfl,rfl⟩

section
variable {first second : OutboxRecord R}

private theorem readable_event (gift : SameGift first second) (userId : UserId)
    (readable : userIdOf (payloadOf first) "recipient_id" = some userId) (eventId : UUID) :
    Consumer.purchaseCompleted.event first eventId = Consumer.purchaseCompleted.event second eventId := by
  have other := gift.recipientId.symm.trans readable
  simp only [Consumer.event,readable,other,Option.some_or,gift.gameId,gift.field "completed_at" (by decide),
    gift.field "created_at" (by decide)]

private theorem readable_handled (gift : SameGift first second) (userId : UserId)
    (readable : userIdOf (payloadOf first) "recipient_id" = some userId) (environment : Environment)
    (store : MemoryStore R) : purchaseHandled environment first store = purchaseHandled environment second store := by
  cases identified : eventIdOf first with
  | error fault =>
    have other := gift.eventId.symm.trans identified
    rw [purchaseHandled_unidentified environment first store fault identified,
      purchaseHandled_unidentified environment second store fault other]
  | ok eventId =>
    rw [purchaseHandled_event environment first store eventId identified,
      purchaseHandled_event environment second store eventId (gift.eventId.symm.trans identified),
      readable_event gift userId readable eventId]

end

private theorem unaffected_other {width : Nat} {store : MemoryStore R} (one : OneWidth width store)
    (environment : Environment) (record : OutboxRecord R) (userId other : UserId) (apart : other ≠ userId)
    (only : ∀ credited gameId, Credits record store credited gameId → credited = userId) :
    Unaffected store (purchaseHandled environment record store) other := by
  by_cases somebody : ∃ credited gameId, Credits record store credited gameId
  · obtain ⟨credited,gameId,credits⟩ := somebody
    have same := only credited gameId credits
    subst same
    have outside : other ∉ [credited] := fun member => apart (List.mem_singleton.mp member)
    obtain ⟨eventId,occurredAt,handled⟩ := one.purchaseHandled_credited environment record credited gameId credits
    cases handled.effect with
    | purchasedUnknown _ _ _ _ unknown games preferences recorded =>
      refine ⟨congrFun preferences other,funext fun about => ?_⟩
      rw [recorded other about,if_neg fun both => outside both.2]
    | purchased _ _ _ _ game at_ known games observed recorded =>
      have own := observed other
      rw [if_neg outside] at own
      refine ⟨own,funext fun about => ?_⟩
      rw [recorded other about,if_neg fun both => outside both.2]
  · rw [purchaseHandled_uncredited environment record store fun credited gameId credits =>
      somebody ⟨credited,gameId,credits⟩]
    exact ⟨rfl,rfl⟩

private theorem OneWidth.independent_of_again {width : Nat} {store : MemoryStore R} (one : OneWidth width store)
    (environment : Environment) (first second : OutboxRecord R)
    (quiet : ∀ record, record = first ∨ record = second → ∀ userId gameId, Credits record store userId gameId →
      store.games.get gameId = none ∧ (flag store.ownerships userId gameId).isSome = true) :
    PayerIndependent environment store first second := by
  have again (record : OutboxRecord R) (listed : record = first ∨ record = second) :=
    one.sameModel_again environment record (quiet record listed)
  exact ⟨(again first (.inl rfl)).meet (again second (.inr rfl)),
    fun record listed buyer _ _ => (again record listed).unaffected buyer⟩

private theorem OneWidth.independent_of_readable {width : Nat} {store : MemoryStore R} (one : OneWidth width store)
    (environment : Environment) {first second : OutboxRecord R} (gift : SameGift first second) (recipient : UserId)
    (readable : userIdOf (payloadOf first) "recipient_id" = some recipient) :
    PayerIndependent environment store first second := by
  have same := readable_handled gift recipient readable environment store
  refine ⟨⟨by rw [same],by rw [same],by rw [same]⟩,?_⟩
  intro record listed buyer _ apart
  have named := (gift.alike record listed).2.2.trans readable
  refine unaffected_other one environment record recipient buyer ?_ ?_
  · rintro rfl
    exact apart named
  · intro credited gameId credits
    have user := credits.user
    rw [named,Option.some_or] at user
    exact (Option.some.inj user).symm

private theorem OneWidth.payer_gains_nothing {width : Nat} {store : MemoryStore R} (one : OneWidth width store)
    (environment : Environment) {first second : OutboxRecord R} (gift : SameGift first second)
    (independent : PayerIndependent environment store first second) (eventId : UUID)
    (identified : eventIdOf first = .ok eventId) (unseen : eventId ∉ store.processedEvents)
    (unreadable : userIdOf (payloadOf first) "recipient_id" = none) (gameId : GameId)
    (game : gameIdOf (payloadOf first) = some gameId) (buyer : UserId) (record : OutboxRecord R)
    (listed : record = first ∨ record = second) (pays : userIdOf (payloadOf record) "buyer_id" = some buyer) :
    store.games.get gameId = none ∧ (flag store.ownerships buyer gameId).isSome = true := by
  obtain ⟨event,about,recipient⟩ := gift.alike record listed
  have nobody := recipient.trans unreadable
  have credits : Credits record store buyer gameId :=
    ⟨⟨eventId,event.trans identified,unseen⟩,by rw [nobody,pays]; rfl,about.trans game⟩
  exact (one.unaffected_iff environment record buyer gameId credits).mp
    (independent.payer record listed buyer pays (by rw [nobody]; exact fun differ => by cases differ))

/-- In every reachable state the payer has no influence and gains nothing exactly when the event has
been handled before, the recipient can be read, or no payer that can be read would gain anything. -/
theorem gift_ignores_payer_iff [Floats R] (backfillLimit : Nat) (shipped : Shipped)
    (moves : List (Move R (List String → Except String (Json R)))) (environment : Environment)
    (first second : OutboxRecord R) (gift : SameGift first second) :
    let store := (Enrichment.run backfillLimit shipped.embed moves).store
    PayerIndependent environment store first second ↔
      (∀ eventId, eventIdOf first = .ok eventId → eventId ∈ store.processedEvents) ∨
      (userIdOf (payloadOf first) "recipient_id").isSome = true ∨
      ∀ gameId buyer, gameIdOf (payloadOf first) = some gameId →
        userIdOf (payloadOf first) "buyer_id" = some buyer ∨ userIdOf (payloadOf second) "buyer_id" = some buyer →
        store.games.get gameId = none ∧ (flag store.ownerships buyer gameId).isSome = true := by
  intro store
  have one : OneWidth shipped.dimensions store := shipped_one_width backfillLimit shipped moves
  constructor
  · intro independent
    rw [or_iff_not_imp_left,or_iff_not_imp_left]
    intro fresh unreadable gameId buyer game payer
    rw [Bool.not_eq_true,Option.isSome_eq_false_iff,Option.isNone_iff_eq_none] at unreadable
    push Not at fresh
    obtain ⟨eventId,identified,unseen⟩ := fresh
    have gains := one.payer_gains_nothing environment gift independent eventId identified unseen unreadable gameId game buyer
    rcases payer with pays | pays
    · exact gains first (.inl rfl) pays
    · exact gains second (.inr rfl) pays
  · intro harmless
    rcases harmless with seen | rest
    · apply one.independent_of_again environment
      intro record listed userId gameId credits
      obtain ⟨eventId,identified,unseen⟩ := credits.fresh
      exact absurd (seen eventId ((gift.alike record listed).1.symm.trans identified)) unseen
    cases readable : userIdOf (payloadOf first) "recipient_id" with
    | some recipient => exact one.independent_of_readable environment gift recipient readable
    | none =>
      have gains := rest.resolve_left (by rw [readable]; exact Bool.false_ne_true)
      apply one.independent_of_again environment
      intro record listed userId gameId credits
      obtain ⟨_,game,recipient⟩ := gift.alike record listed
      have user := credits.user
      rw [recipient,readable,Option.none_or] at user
      apply gains gameId userId (game.symm.trans credits.game)
      rcases listed with rfl | rfl
      · exact .inl user
      · exact .inr user

end Memory

namespace Memory
attribute [local instance] Casing.unchanged Columns.canonicalFormats Columns.canonicalFloats

def giftRecord (recipient : String) (buyer : UserId) : OutboxRecord ℚ :=
  foreignRecord [("game_id",.str (⟨⟨1⟩⟩ : GameId).str),("recipient_id",.str recipient),("buyer_id",.str buyer.str)]

private theorem giftRecord_payload (recipient : String) (buyer : UserId) : payloadOf (giftRecord recipient buyer) =
    [("game_id",.str (⟨⟨1⟩⟩ : GameId).str),("recipient_id",.str recipient),("buyer_id",.str buyer.str)] := by
  simp only [payloadOf,giftRecord,foreignRecord,Json.lookup,if_true]

private theorem giftRecord_recipient (recipient : String) (buyer : UserId) :
    Json.field "recipient_id" (payloadOf (giftRecord recipient buyer)) = some (.str recipient) := by
  rw [giftRecord_payload]
  rfl

private theorem giftRecord_same (recipient : String) (first second : UserId) :
    SameGift (giftRecord recipient first) (giftRecord recipient second) where
  eventId := by simp only [eventIdOf,giftRecord,foreignRecord,Json.field,Json.lookup,String.reduceEq,if_false]
  recipient := ⟨.str recipient,giftRecord_recipient recipient first⟩
  others key other := by
    have last (buyer : UserId) : Json.lookup key [("buyer_id",(.str buyer.str : Json ℚ))] = none := if_neg other.symm
    rw [giftRecord_payload,giftRecord_payload]
    exact congrArg (fun found => if "game_id" = key then some _ else if "recipient_id" = key then some _ else found)
      ((last first).trans (last second).symm)

private theorem giftRecord_buyer (recipient : String) (buyer : UserId) :
    userIdOf (payloadOf (giftRecord recipient buyer)) "buyer_id" = some buyer := by
  have there : Json.field "buyer_id" (payloadOf (giftRecord recipient buyer)) = some (.str buyer.str) := by
    rw [giftRecord_payload]
    rfl
  rw [userIdOf_text there,show Formats.parseUuid ℚ buyer.str = some buyer.value from UUID.ofText_str buyer.value]
  rfl

private theorem giftRecord_game (recipient : String) (buyer : UserId) :
    gameIdOf (payloadOf (giftRecord recipient buyer)) = some ⟨⟨1⟩⟩ := by
  have there : Json.field "game_id" (payloadOf (giftRecord recipient buyer)) = some (.str (⟨⟨1⟩⟩ : GameId).str) := by
    rw [giftRecord_payload]
    rfl
  rw [gameIdOf_text there,show Formats.parseUuid ℚ (⟨⟨1⟩⟩ : GameId).str = some ⟨1⟩ from UUID.ofText_str ⟨1⟩]
  rfl

theorem gift_ignores_payer_iff_given :
    let store := (Enrichment.run 500 Shipped.unasked.embed soldRace).store
    let first := giftRecord (⟨⟨3⟩⟩ : UserId).str ⟨⟨1⟩⟩
    let second := giftRecord (⟨⟨3⟩⟩ : UserId).str ⟨⟨2⟩⟩
    PayerIndependent .fixed store first second ↔
      (∀ eventId, eventIdOf first = .ok eventId → eventId ∈ store.processedEvents) ∨
      (userIdOf (payloadOf first) "recipient_id").isSome = true ∨
      ∀ gameId buyer, gameIdOf (payloadOf first) = some gameId →
        userIdOf (payloadOf first) "buyer_id" = some buyer ∨ userIdOf (payloadOf second) "buyer_id" = some buyer →
        store.games.get gameId = none ∧ (flag store.ownerships buyer gameId).isSome = true :=
  gift_ignores_payer_iff 500 Shipped.unasked soldRace .fixed _ _ (giftRecord_same _ ⟨⟨1⟩⟩ ⟨⟨2⟩⟩)

/-- A recipient that cannot be read is taken for an absent one, and the payer gets the game. -/
theorem unreadable_recipient_credits_payer : ¬∀ (moves : List (Move ℚ (List String → Except String (Json ℚ))))
    (first second : OutboxRecord ℚ), SameGift first second →
      PayerIndependent .fixed (Enrichment.run 500 Shipped.unasked.embed moves).store first second := by
  intro claim
  have independent := claim [] _ _ (giftRecord_same "nobody" ⟨⟨1⟩⟩ ⟨⟨2⟩⟩)
  have refused : Formats.parseUuid ℚ "nobody" = none := by decide +kernel
  have unreadable : userIdOf (payloadOf (giftRecord "nobody" ⟨⟨1⟩⟩)) "recipient_id" = none := by
    rw [userIdOf_text (giftRecord_recipient "nobody" ⟨⟨1⟩⟩),refused]
    rfl
  have payer := giftRecord_buyer "nobody" ⟨⟨1⟩⟩
  have credits : Credits (giftRecord "nobody" ⟨⟨1⟩⟩) ({} : MemoryStore ℚ) ⟨⟨1⟩⟩ ⟨⟨1⟩⟩ :=
    ⟨⟨⟨1⟩,rfl,Finset.notMem_empty _⟩,by rw [unreadable,payer,Option.none_or],giftRecord_game "nobody" ⟨⟨1⟩⟩⟩
  have one : OneWidth 4 ({} : MemoryStore ℚ) := ⟨fun _ _ found => (by cases found),fun _ _ found => (by cases found)⟩
  have unaffected := independent.payer _ (.inl rfl) ⟨⟨1⟩⟩ payer (by rw [unreadable]; exact fun same => by cases same)
  cases ((one.unaffected_iff .fixed _ _ _ credits).mp unaffected).2

end Memory
end ArcadiaRecommendation
