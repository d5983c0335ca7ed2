import ArcadiaRecommendation.Memory.Serve
import ArcadiaRecommendation.Properties.CachedReads
import ArcadiaRecommendation.Sql.Mapping

/-! Who is taken for an actor, and what an actor is shown: a personal list goes to its user, or to a
moderator who asks for it, whatever the cache holds. -/
namespace ArcadiaRecommendation

theorem bind_ok_iff {A B E : Type} (first : Except E A) (next : A → Except E B) (result : B) :
    (first >>= next) = .ok result ↔ ∃ value, first = .ok value ∧ next value = .ok result := by
  cases first with
  | error fault => exact iff_of_false (fun done => by cases done) fun ⟨_,done,_⟩ => by cases done
  | ok value => exact ⟨fun done => ⟨value,rfl,done⟩,fun ⟨_,same,done⟩ => Except.ok.inj same ▸ done⟩

variable {R : Type} [Formats R] [Casing]

/-- The claims of an access token that speaks for this actor. -/
structure Claims.SpeaksFor (claims : Claims R) (actor : Actor) : Prop where
  access : ∀ kind, Json.lookup "typ" claims = some kind → kind.text = "access"
  subject : ∃ subject, Json.field "sub" claims = some subject ∧ Formats.parseUuid R subject.text = some actor.userId.value
  role : Role.ofText ((Json.lookup "role" claims).elim "BASIC_USER" Json.text) = some actor.role
  banned : actor.isBanned = decide (Casing.upper ((Json.lookup "state" claims).elim "" Json.text) = "BANNED")

private theorem JwtAccessTokenVerifier.verify_ok (library : TokenLibrary R) (verifier : JwtAccessTokenVerifier)
    (token : String) (actor : Actor) : verifier.verify library token = .ok actor ↔
      ∃ claims, library.decode verifier token = .ok claims ∧ Claims.SpeaksFor claims actor := by
  cases decoded : library.decode verifier token with
  | error text =>
    unfold verify
    rw [decoded]
    constructor
    · intro accepted
      cases accepted
    · rintro ⟨claims,other,_⟩
      cases other
  | ok claims =>
    have only : (∃ other, (.ok claims : Except String (Claims R)) = .ok other ∧ other.SpeaksFor actor) ↔ claims.SpeaksFor actor :=
      ⟨fun ⟨_,same,speaks⟩ => Except.ok.inj same ▸ speaks,fun speaks => ⟨claims,rfl,speaks⟩⟩
    rw [only]
    unfold verify
    rw [decoded]
    simp only [Except.mapError,bind,Except.bind,throw,throwThe,MonadExceptOf.throw,pure,Except.pure]
    constructor
    · intro accepted
      split at accepted
      · cases accepted
      · rename_i kind
        split at accepted
        · rename_i subject found
          split at accepted
          · rename_i role named
            split at accepted
            · rename_i userId parsed
              cases accepted
              refine ⟨fun other known => ?_,⟨subject,found,parsed⟩,named,rfl⟩
              rw [known] at kind
              exact not_not.mp kind
            · cases accepted
          · cases accepted
        · cases accepted
    · intro speaks
      obtain ⟨subject,found,parsed⟩ := speaks.subject
      have kind : (Json.lookup "typ" claims).elim access Json.text = access := by
        cases known : Json.lookup "typ" claims with
        | none => rfl
        | some kind => exact speaks.access kind known
      have named : Role.ofText ((Json.lookup "role" claims).elim Role.basicUser.str Json.text) = some actor.role := speaks.role
      rw [if_neg (not_not.mpr kind),found]
      dsimp only
      rw [named]
      dsimp only
      rw [parsed]
      dsimp only
      rw [← speaks.banned]

/-- The headers of a caller that is taken for this actor. -/
inductive Vouches (library : TokenLibrary R) (settings : Settings) (caller : Caller) (actor : Actor) : Prop
  | token (credentials : Credentials) (claims : Claims R) (backend : settings.identityBackend = .jwt)
      (sent : caller.credentials = some credentials) (bearer : Casing.lower credentials.scheme = "bearer")
      (given : credentials.credentials ≠ "")
      (decoded : library.decode ⟨settings.jwtSecret,settings.jwtAlgorithm,settings.jwtIssuer,settings.jwtAudience⟩
        credentials.credentials = .ok claims)
      (speaks : claims.SpeaksFor actor)
  | debug (text : String) (userId : UUID) (backend : settings.identityBackend = .fake) (near : settings.appEnv = .local_)
      (sent : caller.debugUser = some text) (parsed : Formats.parseUuid R text = some userId)
      (basic : actor = { userId := ⟨userId⟩, role := .basicUser })

private theorem optionalActor_ok (library : TokenLibrary R) (settings : Settings) (caller : Caller) (actor : Actor) :
    optionalActor library settings caller = .ok (some actor) ↔ Vouches library settings caller actor := by
  cases backend : settings.identityBackend with
  | fake =>
    have tokens : settings.tokens = none := by
      unfold Settings.tokens
      rw [backend]
      rfl
    unfold optionalActor
    rw [tokens]
    dsimp only
    constructor
    · intro accepted
      split at accepted
      · cases accepted
      · rename_i text sent
        split at accepted
        · cases accepted
        · rename_i near
          split at accepted
          · cases accepted
          · rename_i userId parsed
            cases accepted
            simp only [backend,Bool.not_eq_true,Bool.not_eq_false',Bool.and_eq_true,decide_eq_true_eq,Settings.isLocal] at near
            exact .debug text userId backend near.1 sent parsed rfl
    · intro vouched
      cases vouched with
      | token _ _ other => cases backend.symm.trans other
      | debug text userId _ near sent parsed basic =>
        simp [sent,Settings.isLocal,near,backend,parsed,basic]
  | jwt =>
    have tokens : settings.tokens =
        some ⟨settings.jwtSecret,settings.jwtAlgorithm,settings.jwtIssuer,settings.jwtAudience⟩ := by
      unfold Settings.tokens
      rw [if_pos backend]
    unfold optionalActor
    rw [tokens]
    cases sent : caller.credentials with
    | none =>
      dsimp only
      constructor
      · intro accepted
        split at accepted
        · cases accepted
        · simp [backend] at accepted
      · intro vouched
        cases vouched with
        | token _ _ _ other => cases sent.symm.trans other
        | debug _ _ other => cases backend.symm.trans other
    | some credentials =>
      dsimp only
      constructor
      · intro accepted
        split at accepted
        · cases accepted
        · rename_i bearer
          simp only [Bool.or_eq_true,decide_eq_true_eq,not_or,not_not] at bearer
          cases verified : JwtAccessTokenVerifier.verify library _ credentials.credentials with
          | error fault =>
            rw [verified] at accepted
            cases accepted
          | ok found =>
            rw [verified] at accepted
            cases accepted
            obtain ⟨claims,decoded,speaks⟩ := (JwtAccessTokenVerifier.verify_ok library _ _ _).mp verified
            exact .token credentials claims backend sent bearer.1 bearer.2 decoded speaks
      · intro vouched
        cases vouched with
        | debug _ _ other => cases backend.symm.trans other
        | token own claims _ same bearer given decoded speaks =>
          cases Option.some.inj (sent.symm.trans same)
          have verified := (JwtAccessTokenVerifier.verify_ok library _ _ _).mpr ⟨claims,decoded,speaks⟩
          rw [if_neg (by simp [bearer,given]),verified]
          rfl

private theorem currentActor_ok (library : TokenLibrary R) (settings : Settings) (caller : Caller) (actor : Actor) :
    currentActor library settings caller = .ok actor ↔ Vouches library settings caller actor := by
  rw [← optionalActor_ok]
  unfold currentActor
  rw [bind_ok_iff]
  constructor
  · rintro ⟨found,known,accepted⟩
    cases found with
    | none => cases accepted
    | some other =>
      cases accepted
      exact known
  · exact fun known => ⟨some actor,known,rfl⟩

private theorem requireRoles_ok (library : TokenLibrary R) (settings : Settings) (roles : List Role) (caller : Caller)
    (actor : Actor) :
    requireRoles library settings roles caller = .ok actor ↔ Vouches library settings caller actor ∧ actor.role ∈ roles := by
  rw [← currentActor_ok]
  unfold requireRoles
  rw [bind_ok_iff]
  constructor
  · rintro ⟨found,known,accepted⟩
    dsimp only at accepted
    split at accepted
    · cases accepted
    · rename_i member
      cases accepted
      exact ⟨known,not_not.mp member⟩
  · rintro ⟨known,member⟩
    exact ⟨actor,known,if_neg (not_not.mpr member)⟩

private theorem Settings.start_ok (settings : Settings) (started : settings.start = .ok ()) :
    (settings.appEnv ≠ .local_ → settings.identityBackend = .jwt) ∧
      (settings.isProduction = true → 32 ≤ settings.jwtSecret.length ∧ within "change" (Casing.lower settings.jwtSecret) = false ∧
        settings.jwtIssuer ≠ "" ∧ settings.jwtAudience ≠ "") := by
  unfold start at started
  obtain ⟨_,secrets,started⟩ := (bind_ok_iff _ _ _).mp started
  obtain ⟨_,_,near⟩ := (bind_ok_iff _ _ _).mp started
  constructor
  · intro away
    unfold assertDebugAuthIsLocalOnly at near
    split at near
    · cases near
    · rename_i guarded
      cases backend : settings.identityBackend with
      | jwt => rfl
      | fake => simp [away,backend] at guarded
  · intro production
    unfold rejectPlaceholderSecrets at secrets
    rw [production,Bool.not_true,if_neg Bool.false_ne_true] at secrets
    split at secrets
    · cases secrets
    · rename_i strong
      split at secrets
      · cases secrets
      · rename_i named
        simp only [Bool.or_eq_true,decide_eq_true_eq,not_or,Bool.not_eq_true,Nat.not_lt] at strong named
        exact ⟨strong.1,strong.2,named.1,named.2⟩

namespace HttpService
variable [Scalar R] {Body : Type} (service : HttpService R Body)

/-- What a caller may ask for on each route. -/
inductive Admits (caller : Caller) : ReadRoute → ReadQuery → Bool → Prop
  | own (limit : Option Int) (actor : Actor) (count : Nat) (vouched : Vouches service.library service.settings caller actor)
      (bounded : limitDep limit = .ok count) :
      Admits caller (.myRecommendations limit) (.recommendations actor.userId count) true
  | others (userId : UUID) (limit : Option Int) (actor : Actor) (count : Nat)
      (vouched : Vouches service.library service.settings caller actor) (bounded : limitDep limit = .ok count)
      (may : actor.userId = ⟨userId⟩ ∨ actor.isModerator = true) :
      Admits caller (.recommendationsFor userId limit) (.recommendations ⟨userId⟩ count) false
  | rail (gameId : UUID) (limit : Option Int) (count : Nat) (bounded : limitDep limit = .ok count) :
      Admits caller (.similarGames gameId limit) (.similar ⟨gameId⟩ count) true

private theorem admits_iff (caller : Caller) (route : ReadRoute) (query : ReadQuery) (cached : Bool) :
    service.asked caller route = .ok (query,cached) ↔ service.Admits caller route query cached := by
  constructor
  · intro accepted
    cases route with
    | similarGames gameId limit =>
      obtain ⟨count,bounded,done⟩ := (bind_ok_iff _ _ _).mp accepted
      cases done
      exact .rail gameId limit count bounded
    | myRecommendations limit =>
      obtain ⟨actor,known,next⟩ := (bind_ok_iff _ _ _).mp accepted
      obtain ⟨count,bounded,done⟩ := (bind_ok_iff _ _ _).mp next
      cases done
      exact .own limit actor count ((currentActor_ok _ _ _ _).mp known) bounded
    | recommendationsFor userId limit =>
      obtain ⟨actor,known,next⟩ := (bind_ok_iff _ _ _).mp accepted
      obtain ⟨count,bounded,done⟩ := (bind_ok_iff _ _ _).mp next
      dsimp only at done
      split at done
      · cases done
      · rename_i may
        cases done
        refine .others userId limit actor count ((currentActor_ok _ _ _ _).mp known) bounded ?_
        simp only [Bool.and_eq_true,decide_eq_true_eq,not_and_or,not_not,Bool.not_eq_true',Bool.not_eq_false] at may
        exact may.imp Eq.symm id
  · intro admits
    cases admits with
    | rail gameId limit count bounded => exact (bind_ok_iff _ _ _).mpr ⟨count,bounded,rfl⟩
    | own limit actor count vouched bounded =>
      have known := (currentActor_ok _ _ _ _).mpr vouched
      exact (bind_ok_iff _ _ _).mpr ⟨actor,known,(bind_ok_iff _ _ _).mpr ⟨count,bounded,rfl⟩⟩
    | others userId limit actor count vouched bounded may =>
      have known := (currentActor_ok _ _ _ _).mpr vouched
      refine (bind_ok_iff _ _ _).mpr ⟨actor,known,(bind_ok_iff _ _ _).mpr ⟨count,bounded,if_neg ?_⟩⟩
      simp only [Bool.and_eq_true,decide_eq_true_eq,not_and_or,not_not,Bool.not_eq_true',Bool.not_eq_false]
      exact may.imp Eq.symm id

private theorem answers_admitted (steps : List (Step R Body))
    (answer : CacheAnswer (Caller × ReadRoute) ReadQuery (Value R) HttpFault)
    (member : answer ∈ (service.run steps).answers) :
    ∃ cached, service.Admits answer.asker.1 answer.asker.2 answer.query cached := by
  have only : CacheAside.Entitled (fun asker query => ∃ cached, service.Admits asker.1 asker.2 query cached)
      (service.run steps) :=
    service.cache.run_entitled {} (steps.filterMap service.move) (by
      intro asker query readable asked
      obtain ⟨step,_,made⟩ := List.mem_filterMap.mp asked
      cases step with
      | request caller route readable =>
        unfold move at made
        dsimp only at made
        split at made
        · rename_i found cached admitted
          cases made
          exact ⟨cached,(service.admits_iff _ _ _ _).mp admitted⟩
        · cases made
      | _ => cases made)
  exact only.answers answer member

omit [Formats R] in
private theorem listed_for (query : ReadQuery) (store : MemoryStore R) (list : RecommendationsResponse R)
    (shown : service.direct query store = .ok (.recommendations list)) :
    ∃ userId limit, query = .recommendations userId limit ∧ list.userId = userId.str := by
  unfold direct at shown
  cases answered : service.read query store with
  | error fault =>
    rw [answered] at shown
    cases shown
  | ok response =>
    rw [answered] at shown
    cases shown
    cases query with
    | similar gameId limit =>
      obtain ⟨rail,same⟩ := service.read_similar gameId limit store _ answered
      cases same
    | recommendations userId limit =>
      obtain ⟨other,same,served⟩ := service.read_recommendations userId limit store _ answered
      cases same
      refine ⟨userId,limit,rfl,?_⟩
      cases stored : Memory.listed store userId limit with
      | nil =>
        have read : Memory.forUser ({ store } : Memory.Session R) userId limit = [] := stored
        simp only [Memory.execute,ServeRecommendations.execute,ServeRecommendations.fallbackResponse,preferenceOf,
          Program.bind_eq,Program.pure_eq,Program.call_bind,Program.done_bind,Program.run_call,Memory.handle,read] at served
        cases served
        rfl
      | cons first rest =>
        rw [Memory.execute_serve_stored service.environment store userId limit first rest stored] at served
        cases served
        rfl

/-- What confines a personal list to its user, and a refresh to moderators, in a run. -/
structure Confined (steps : List (Step R Body)) : Prop where
  admitted : ∀ caller route query cached,
    service.asked caller route = .ok (query,cached) ↔ service.Admits caller route query cached
  moderated : ∀ caller actor, service.moderatorDep caller = .ok actor ↔
    Vouches service.library service.settings caller actor ∧ actor.isModerator = true
  shown : ∀ answer ∈ (service.run steps).answers, ∀ list, service.response answer = .ok (.recommendations list) →
    ∃ actor userId, Vouches service.library service.settings answer.asker.1 actor ∧ list.userId = userId.str ∧
      (actor.userId = userId ∨ actor.isModerator = true ∧ ∃ limit, answer.asker.2 = .recommendationsFor userId.value limit)
  remote : service.settings.appEnv ≠ .local_ → service.settings.identityBackend = .jwt
  production : service.settings.isProduction = true → 32 ≤ service.settings.jwtSecret.length ∧
    Settings.within "change" (Casing.lower service.settings.jwtSecret) = false

/-- In a service that may start, a personal list is shown to whoever is vouched for as its user or as
a moderator, whatever was cached and whoever asked before. Outside a local run only a token vouches,
and in production it is verified against a secret that is no placeholder. -/
theorem personal_lists_confined (started : service.settings.start = .ok ()) (steps : List (Step R Body)) :
    service.Confined steps where
  admitted := service.admits_iff
  moderated caller actor := by
    unfold moderatorDep Actor.isModerator
    rw [requireRoles_ok]
    simp
  shown answer member list response := by
    obtain ⟨before,_,same⟩ := service.answer_earlier steps answer member
    obtain ⟨userId,limit,asked,named⟩ := service.listed_for answer.query _ list (same ▸ response)
    obtain ⟨cached,admitted⟩ := service.answers_admitted steps answer member
    rw [asked] at admitted
    generalize answer.asker.1 = caller at admitted ⊢
    generalize answer.asker.2 = route at admitted ⊢
    cases admitted with
    | own limit actor count vouched => exact ⟨actor,actor.userId,vouched,named,.inl rfl⟩
    | others userId limit actor count vouched bounded may =>
      exact ⟨actor,⟨userId⟩,vouched,named,may.imp id fun moderator => ⟨moderator,limit,rfl⟩⟩
  remote := (service.settings.start_ok started).1
  production deployed := ⟨((service.settings.start_ok started).2 deployed).1,((service.settings.start_ok started).2 deployed).2.1⟩

end HttpService

end ArcadiaRecommendation

namespace ArcadiaRecommendation
attribute [local instance] Casing.unchanged Columns.canonicalFormats

/-- Instants as signed numbers of microseconds. -/
def IsoFormat.micros : IsoFormat where
  text
    | ⟨.ofNat count⟩ => "+" ++ count.repr
    | ⟨.negSucc count⟩ => "-" ++ count.repr
  parse text :=
    match text.toList with
    | '+' :: digits => some ⟨.ofNat (Nat.ofDigitChars 10 digits 0)⟩
    | '-' :: digits => some ⟨.negSucc (Nat.ofDigitChars 10 digits 0)⟩
    | _ => none
  back at_ := by
    obtain ⟨micros⟩ := at_
    cases micros <;> simp

/-- A deployment with a cache that accepts one token, of a user without a further role. -/
def deployed : HttpService ℚ Unit where
  settings :=
    { appEnv := .prod, identityBackend := .jwt, usesRedis := true, jwtSecret := "0123456789abcdef0123456789abcdef" }
  library :=
    { decode := fun verifier token =>
        if verifier.secret = "0123456789abcdef0123456789abcdef" ∧ token = "signed" then
          .ok [("sub",.str (UUID.mk 1).str),("role",.str "BASIC_USER")]
        else .error "Signature verification failed"
      repr := fun _ => "" }
  format := .micros
  str _ := ""
  environment := .fixed
  backfillLimit := 500
  embed _ _ := .ok []

/-- A user reads the list and reads it again a second later, from the cache. -/
def readTwice : List (HttpService.Step ℚ Unit) :=
  let mine : HttpService.Step ℚ Unit := .request ⟨some ⟨"bearer","signed"⟩,none⟩ (.myRecommendations none) true
  [.change (.work ⟨.ingest (.gamePublished ⟨7⟩ ⟨⟨1⟩⟩ ⟨⟨9⟩⟩ "Race" ["racing"] [] none ""),.fixed,none⟩),mine,.compute 0,
    .store 0 true,.wait 1,mine]

theorem personal_lists_confined_deployed : deployed.Confined readTwice ∧
    (deployed.run readTwice).answers.map (fun answer => (answer.query,answer.moment,answer.result.isOk)) =
      [(.recommendations ⟨⟨1⟩⟩ 10,0,true),(.recommendations ⟨⟨1⟩⟩ 10,1,true)] :=
  ⟨deployed.personal_lists_confined rfl readTwice,by decide +kernel⟩

end ArcadiaRecommendation
