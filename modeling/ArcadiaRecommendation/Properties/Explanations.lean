import ArcadiaRecommendation.Adapters.Explanation
import ArcadiaRecommendation.Memory.Generation
import ArcadiaRecommendation.Messaging.Subscriber

/-! What the explanation adapter makes of an answer nobody controls: when it returns at all, and
whose reasons it returns. -/
namespace ArcadiaRecommendation
variable {R : Type}

private theorem Json.item_error (key : String) (value : Json R) (fault : ExplainFault)
    (raised : value.item key = .error fault) : fault = .lookupError ∨ fault = .typeError := by
  cases value with
  | dict entries =>
    cases found : Json.lookup key entries with
    | some value =>
      simp only [item,found,Option.elim] at raised
      cases raised
    | none =>
      simp only [item,found,Option.elim] at raised
      exact .inl (Except.error.inj raised).symm
  | _ => exact .inr (Except.error.inj raised).symm

private theorem Json.first_error (value : Json R) (fault : ExplainFault) (raised : value.first = .error fault) :
    fault = .lookupError ∨ fault = .typeError := by
  cases value with
  | list items =>
    cases items with
    | cons item rest => cases raised
    | nil => exact .inl (Except.error.inj raised).symm
  | str text =>
    cases head : text.toList.head? with
    | some char =>
      simp only [first,head,Option.elim] at raised
      cases raised
    | none =>
      simp only [first,head,Option.elim] at raised
      exact .inl (Except.error.inj raised).symm
  | dict entries => exact .inl (Except.error.inj raised).symm
  | _ => exact .inr (Except.error.inj raised).symm

namespace OpenAiCompatibleExplainer

private theorem content_error (body : Json R) (fault : ExplainFault) (raised : content body = .error fault) :
    fault = .lookupError ∨ fault = .typeError := by
  unfold content at raised
  simp only [bind,Except.bind] at raised
  split at raised
  · rename_i choices
    cases raised
    exact Json.item_error _ _ _ choices
  split at raised
  · rename_i choice
    cases raised
    exact Json.first_error _ _ choice
  split at raised
  · rename_i message
    cases raised
    exact Json.item_error _ _ _ message
  exact Json.item_error _ _ _ raised

variable [Formats R] (loads : String → Except ExplainFault (Json R))

private theorem parse_read (text : String) (answer : Json R) (candidates : List ExplainedGame)
    (read : loads text = .ok answer) : parse loads (.str text) candidates =
      .ok (((entriesOf answer).getD []).foldl (attach (wanted candidates)) ∅) := by
  simp only [parse,decoded,read]
  cases entriesOf answer <;> rfl

private theorem parse_text_total_iff (text : String) (candidates : List ExplainedGame) :
    (∃ reasons, parse loads (.str text) candidates = .ok reasons) ↔
      ∀ fault, loads text = .error fault → fault = .valueError := by
  cases read : loads text with
  | ok answer =>
    refine ⟨fun _ _ failed => ?_,fun _ => ⟨_,parse_read loads text answer candidates read⟩⟩
    cases failed
  | error fault =>
    constructor
    · rintro ⟨reasons,returned⟩ raised failed
      cases Except.error.inj failed
      simp only [parse,decoded,read] at returned
      cases fault with
      | valueError => rfl
      | _ => cases returned
    · intro documented
      cases documented fault rfl
      exact ⟨∅,by simp only [parse,decoded,read]⟩

private theorem parse_total_iff (value : Json R) (candidates : List ExplainedGame) :
    (∃ reasons, parse loads value candidates = .ok reasons) ↔
      ∃ text, value = .str text ∧ ∀ fault, loads text = .error fault → fault = .valueError := by
  cases value with
  | str text =>
    rw [parse_text_total_iff]
    constructor
    · intro documented
      exact ⟨text,rfl,documented⟩
    · rintro ⟨own,same,documented⟩
      cases same
      exact documented
  | _ =>
    constructor
    · rintro ⟨reasons,returned⟩
      cases returned
    · rintro ⟨text,same,_⟩
      cases same

def Usable (explainer : OpenAiCompatibleExplainer R) (post : ChatRequest R → Except ExplainFault (Json R))
    (request : ExplanationRequest) : Prop :=
  ∃ body text answer entries, post (explainer.chatRequest request) = .ok body ∧ content body = .ok (.str text) ∧
    loads text = .ok answer ∧ entriesOf answer = some entries

/-- The adapter returns a mapping, empty where the answer is unusable. -/
def Safe (explainer : OpenAiCompatibleExplainer R) (post : ChatRequest R → Except ExplainFault (Json R))
    (request : ExplanationRequest) : Prop :=
  ∃ reasons, explainer.explain post loads request = .ok reasons ∧ (¬explainer.Usable loads post request → reasons = ∅)

private theorem parse_unusable (value : Json R) (candidates : List ExplainedGame) (reasons : Dict GameId (List String))
    (returned : parse loads value candidates = .ok reasons)
    (unusable : ∀ text answer entries, value = .str text → loads text = .ok answer → entriesOf answer ≠ some entries) :
    reasons = ∅ := by
  obtain ⟨text,rfl,documented⟩ := (parse_total_iff loads value candidates).mp ⟨reasons,returned⟩
  cases read : loads text with
  | ok answer =>
    have none : entriesOf answer = none := Option.eq_none_iff_forall_ne_some.mpr fun entries =>
      unusable text answer entries rfl read
    rw [parse_read loads text answer candidates read,none] at returned
    exact (Except.ok.inj returned).symm
  | error fault =>
    cases documented fault read
    simp only [parse,decoded,read] at returned
    exact (Except.ok.inj returned).symm

private theorem explain_posted (explainer : OpenAiCompatibleExplainer R)
    (post : ChatRequest R → Except ExplainFault (Json R)) (request : ExplanationRequest)
    (asked : request.candidates ≠ []) (body value : Json R)
    (posted : post (explainer.chatRequest request) = .ok body) (found : content body = .ok value) :
    explainer.explain post loads request = parse loads value request.candidates := by
  have shortlisted : request.candidates.isEmpty = false := by simpa using asked
  simp only [explain,shortlisted,posted,found,bind,Except.bind,Bool.false_eq_true,if_false]

private theorem explain_failed (explainer : OpenAiCompatibleExplainer R)
    (post : ChatRequest R → Except ExplainFault (Json R)) (request : ExplanationRequest)
    (asked : request.candidates ≠ []) (fault : ExplainFault)
    (failed : post (explainer.chatRequest request) >>= content = .error fault) :
    explainer.explain post loads request = if fault = .other then .error .other else .ok ∅ := by
  have shortlisted : request.candidates.isEmpty = false := by simpa using asked
  simp only [explain,shortlisted,failed,Bool.false_eq_true,if_false]
  cases fault <;> rfl

private theorem safe_failed_iff (explainer : OpenAiCompatibleExplainer R)
    (post : ChatRequest R → Except ExplainFault (Json R)) (request : ExplanationRequest)
    (asked : request.candidates ≠ []) (fault : ExplainFault)
    (failed : post (explainer.chatRequest request) >>= content = .error fault) :
    explainer.Safe loads post request ↔ fault ≠ .other := by
  unfold Safe
  rw [explain_failed loads explainer post request asked fault failed]
  constructor
  · rintro ⟨reasons,returned,_⟩ uncaught
    rw [if_pos uncaught] at returned
    cases returned
  · intro caught
    exact ⟨∅,if_neg caught,fun _ => rfl⟩

/-- The adapter keeps its promise exactly where the content it is led to is a text that decodes, or fails to
decode with the one error it expects. -/
theorem explain_safe_iff (explainer : OpenAiCompatibleExplainer R) (post : ChatRequest R → Except ExplainFault (Json R))
    (request : ExplanationRequest) : explainer.Safe loads post request ↔
      request.candidates = [] ∨
        post (explainer.chatRequest request) ≠ .error .other ∧
          ∀ body value, post (explainer.chatRequest request) = .ok body → content body = .ok value →
            ∃ text, value = .str text ∧ ∀ fault, loads text = .error fault → fault = .valueError := by
  by_cases asked : request.candidates = []
  · refine ⟨fun _ => .inl asked,fun _ => ⟨∅,?_,fun _ => rfl⟩⟩
    rw [explain,asked]
    rfl
  rw [or_iff_right asked]
  cases posted : post (explainer.chatRequest request) with
  | error fault =>
    rw [explainer.safe_failed_iff loads post request asked fault (by rw [posted]; rfl)]
    constructor
    · intro caught
      refine ⟨fun same => caught (Except.error.inj same),fun body value answered => ?_⟩
      cases answered
    · rintro ⟨caught,_⟩ same
      exact caught (congrArg Except.error same)
  | ok body =>
    have answered : (Except.ok body : Except ExplainFault (Json R)) ≠ .error .other := by
      intro same
      cases same
    cases found : content body with
    | error fault =>
      rw [explainer.safe_failed_iff loads post request asked fault (by rw [posted]; exact found)]
      constructor
      · intro _
        refine ⟨answered,fun other value same inside => ?_⟩
        cases Except.ok.inj same
        rw [found] at inside
        cases inside
      · intro _
        rcases content_error body fault found with rfl | rfl <;> exact ExplainFault.noConfusion
    | ok value =>
      have reads := explain_posted loads explainer post request asked body value posted found
      constructor
      · rintro ⟨reasons,returned,_⟩
        refine ⟨answered,fun other inside same there => ?_⟩
        cases Except.ok.inj same
        cases Except.ok.inj (found.symm.trans there)
        exact (parse_total_iff loads value request.candidates).mp ⟨reasons,reads.symm.trans returned⟩
      · rintro ⟨_,readable⟩
        obtain ⟨reasons,returned⟩ := (parse_total_iff loads value request.candidates).mpr (readable body value rfl found)
        refine ⟨reasons,reads.trans returned,fun unusable => ?_⟩
        apply parse_unusable loads value request.candidates reasons returned
        rintro text answer entries rfl read listed
        exact unusable ⟨body,text,answer,entries,posted,found,read,listed⟩

omit loads in
private theorem get_collected (wanted : Dict String GameId) (entries : List (Json R))
    (reasons : Dict GameId (List String)) (gameId : GameId) (texts : List String)
    (found : (entries.foldl (attach wanted) reasons).get gameId = some texts) :
    reasons.get gameId = some texts ∨ ∃ entry, .dict entry ∈ entries ∧ wanted.get (textAt "id" entry) = some gameId ∧
      Text.strip (textAt "reason" entry) ≠ "" ∧ texts = [Text.strip (textAt "reason" entry)] := by
  induction entries generalizing reasons with
  | nil => exact .inl found
  | cons head rest ih =>
    rcases ih (attach wanted reasons head) found with old | ⟨entry,member,named,visible,same⟩
    case inr => exact .inr ⟨entry,List.mem_cons_of_mem head member,named,visible,same⟩
    cases head with
    | dict entry =>
      cases named : wanted.get (textAt "id" entry) with
      | none =>
        simp only [attach,named] at old
        exact .inl old
      | some other =>
        simp only [attach,named] at old
        split at old
        · exact .inl old
        rename_i visible
        rw [Dict.get_set] at old
        split at old
        · rename_i same
          exact .inr ⟨entry,List.mem_cons_self,by rw [named,same],visible,(Option.some.inj old).symm⟩
        · exact .inl old
    | _ => exact .inl old

omit [Formats R] loads in
private theorem get_wanted (candidates : List ExplainedGame) (text : String) (gameId : GameId)
    (found : (wanted candidates).get text = some gameId) :
    text = gameId.str ∧ gameId ∈ candidates.map (·.gameId) := by
  have listed := Dict.mem_of_ofList _ text gameId found
  obtain ⟨game,member,same⟩ := List.mem_map.mp listed
  cases same
  exact ⟨rfl,List.mem_map_of_mem member⟩

def Justified (text : String) (gameId : GameId) (reason : String) : Prop :=
  ∃ answer entries entry, loads text = .ok answer ∧ entriesOf answer = some entries ∧ .dict entry ∈ entries ∧
    textAt "id" entry = gameId.str ∧ Text.strip (textAt "reason" entry) = reason

/-- A reason for a game is one that the answer gives for it, and the game was asked about. -/
theorem parse_justified (text : String) (candidates : List ExplainedGame) (reasons : Dict GameId (List String))
    (returned : parse loads (.str text) candidates = .ok reasons) (gameId : GameId) (texts : List String)
    (found : reasons.get gameId = some texts) :
    gameId ∈ candidates.map (·.gameId) ∧
      ∃ reason, texts = [reason] ∧ Text.strip reason ≠ "" ∧ Justified loads text gameId reason := by
  have nothing : reasons ≠ ∅ := by
    rintro rfl
    cases found
  cases read : loads text with
  | error fault =>
    have unread := parse_unusable loads (.str text) candidates reasons returned
    refine absurd (unread fun other answer entries same decoded => ?_) nothing
    cases same
    rw [read] at decoded
    cases decoded
  | ok answer =>
    rw [parse_read loads text answer candidates read] at returned
    rw [← Except.ok.inj returned] at found
    rcases get_collected _ _ _ _ _ found with before | ⟨entry,member,named,visible,same⟩
    · cases before
    obtain ⟨own,asked⟩ := get_wanted candidates _ gameId named
    cases listed : entriesOf answer with
    | none =>
      rw [listed] at member
      cases member
    | some entries =>
      rw [listed] at member
      exact ⟨asked,_,same,Text.strip_strip _ visible,answer,entries,entry,read,listed,member,own,rfl⟩

end OpenAiCompatibleExplainer

namespace Memory
open OpenAiCompatibleExplainer
variable [Scalar R] [Casing]

/-- The backend whose explanation port is this adapter. What the adapter raises, the use case raises. -/
def handleExplaining (environment : Environment)
    (explain : ExplanationRequest → Except ExplainFault (Dict GameId (List String))) :
    Handler (Op R) Answer Fault (Session R) := fun op session =>
  match op with
  | .explain request =>
    match explain request with
    | .ok reasons => .ok (reasons,session)
    | .error _ => .error (.provider "explanation")
  | other => handle environment other session

/-- What the port is asked for a ranking. -/
def explanationRequest (scored : List (ScoredGame R)) (played : List (GameProfile R)) : ExplanationRequest where
  liked := (played.take Limits.maxExplainedCandidates).map GenerateRecommendations.asExplained
  candidates := (scored.take Limits.maxExplainedCandidates).map fun item => GenerateRecommendations.asExplained item.game

section Run
variable (environment : Environment) (explain : ExplanationRequest → Except ExplainFault (Dict GameId (List String)))
  (generation : Generation R) (scored : List (ScoredGame R)) (played : List (GameProfile R)) (session : Session R)

theorem run_explained_aside (aside : generation.explanations = false ∨ scored = []) :
    (GenerateRecommendations.explained generation scored played).run (handleExplaining environment explain) session =
      (.ok scored,session) := by
  have skipped : (!generation.explanations || scored.isEmpty) = true := by
    rcases aside with off | rfl
    · rw [off]
      rfl
    · exact Bool.or_true _
  unfold GenerateRecommendations.explained
  rw [if_pos skipped]
  rfl

theorem run_explained_answered (reasons : Dict GameId (List String))
    (answered : explain (explanationRequest scored played) = .ok reasons) :
    (GenerateRecommendations.explained generation scored played).run (handleExplaining environment explain) session =
      (.ok (explained { environment with explain := fun _ => reasons } generation scored played),session) := by
  unfold explanationRequest at answered
  unfold GenerateRecommendations.explained explained
  split
  · rfl
  · simp only [Program.bind_eq,Program.pure_eq,Program.call_bind,Program.done_bind,Program.run_call,handleExplaining,answered]
    split <;> rfl

theorem run_explained_raised (on : generation.explanations = true) (ranked : scored ≠ []) (fault : ExplainFault)
    (raised : explain (explanationRequest scored played) = .error fault) :
    (GenerateRecommendations.explained generation scored played).run (handleExplaining environment explain) session =
      (.error (.provider "explanation"),session) := by
  have asked : (!generation.explanations || scored.isEmpty) = false := by
    rw [on]
    exact List.isEmpty_eq_false_iff.mpr ranked
  unfold explanationRequest at raised
  unfold GenerateRecommendations.explained
  rw [asked]
  simp only [Program.bind_eq,Program.pure_eq,Program.call_bind,Program.done_bind,Program.run_call,handleExplaining,
    raised,Bool.false_eq_true,if_false]

end Run

private theorem explained_place (environment : Environment) (reasons : Dict GameId (List String))
    (generation : Generation R) (scored : List (ScoredGame R)) (played : List (GameProfile R)) (place : Nat)
    (before after : ScoredGame R) (scorer : scored[place]? = some before)
    (merged : (explained { environment with explain := fun _ => reasons } generation scored played)[place]? = some after) :
    after.reasons = before.reasons ∨ reasons.get before.game.gameId = some after.reasons := by
  unfold explained at merged
  split at merged
  · exact .inl (congrArg ScoredGame.reasons (Option.some.inj (merged.symm.trans scorer)))
  dsimp only at merged
  split at merged
  · exact .inl (congrArg ScoredGame.reasons (Option.some.inj (merged.symm.trans scorer)))
  rw [List.getElem?_map,scorer] at merged
  rw [← Option.some.inj merged]
  dsimp only
  cases reasons.get before.game.gameId with
  | none => exact .inl rfl
  | some texts => exact .inr rfl

private theorem beyond_shortlist (scored : List (ScoredGame R))
    (distinct : (scored.map fun item => item.game.gameId).Nodup) (place count : Nat) (item : ScoredGame R)
    (there : scored[place]? = some item) (beyond : count ≤ place) :
    item.game.gameId ∉ (scored.take count).map fun item => item.game.gameId := by
  have rest : item ∈ scored.drop count := by
    apply List.mem_of_getElem? (i := place - count)
    rw [List.getElem?_drop,Nat.add_sub_cancel' beyond,there]
  rw [← List.take_append_drop count scored,List.map_append] at distinct
  exact fun listed => (List.nodup_append.mp distinct).2.2 _ listed _ (List.mem_map_of_mem rest) rfl

/-- The same ranking, in which a game has the reasons of the scorer or one that the answer gives for it. -/
structure Attributed [Formats R] (loads : String → Except ExplainFault (Json R)) (text : String)
    (scored after : List (ScoredGame R)) : Prop where
  ranking : after.map (fun item => (item.game,item.content,item.collaborative)) =
    scored.map fun item => (item.game,item.content,item.collaborative)
  reasons : ∀ (place : Nat) (before item : ScoredGame R), scored[place]? = some before → after[place]? = some item →
    item.reasons = before.reasons ∨ ∃ reason, item.reasons = [reason] ∧ Text.strip reason ≠ "" ∧
      Justified loads text before.game.gameId reason
  kept : ∀ (place : Nat) (before item : ScoredGame R), scored[place]? = some before → after[place]? = some item →
    (Limits.maxExplainedCandidates ≤ place ∨ ∀ reason, ¬Justified loads text before.game.gameId reason) →
      item.reasons = before.reasons

private theorem attributed_own [Formats R] (loads : String → Except ExplainFault (Json R)) (text : String)
    (scored : List (ScoredGame R)) : Attributed loads text scored scored where
  ranking := rfl
  reasons _ _ _ here there := .inl (congrArg ScoredGame.reasons (Option.some.inj (there.symm.trans here)))
  kept _ _ _ here there _ := congrArg ScoredGame.reasons (Option.some.inj (there.symm.trans here))

private theorem attributed_parsed [Formats R] (loads : String → Except ExplainFault (Json R))
    (environment : Environment) (generation : Generation R) (scored : List (ScoredGame R))
    (played : List (GameProfile R)) (text : String) (distinct : (scored.map fun item => item.game.gameId).Nodup)
    (reasons : Dict GameId (List String))
    (returned : parse loads (.str text) (explanationRequest scored played).candidates = .ok reasons) :
    Attributed loads text scored (explained { environment with explain := fun _ => reasons } generation scored played) where
  ranking := explained_games _ generation scored played
  reasons place before item scorer merged := by
    rcases explained_place environment reasons generation scored played place before item scorer merged with own | given
    · exact .inl own
    · exact .inr (parse_justified loads text _ reasons returned _ _ given).2
  kept place before item scorer merged aside := by
    rcases explained_place environment reasons generation scored played place before item scorer merged with own | given
    · exact own
    obtain ⟨asked,reason,_,_,justified⟩ := parse_justified loads text _ reasons returned _ _ given
    rcases aside with beyond | unnamed
    · unfold explanationRequest at asked
      rw [List.map_map] at asked
      exact absurd asked (beyond_shortlist scored distinct place _ before scorer beyond)
    · exact absurd justified (unnamed reason)

/-- Where an answer is read at all, it moves no game, changes no score and puts no reason on a game it
was not given for. Where reading it raises anything but a `ValueError`, nothing is returned. -/
theorem explained_attributed_iff [Formats R] (explainer : OpenAiCompatibleExplainer R)
    (post : ChatRequest R → Except ExplainFault (Json R)) (loads : String → Except ExplainFault (Json R)) (text : String)
    (answers : ∀ request, post (explainer.chatRequest request) >>= content = .ok (.str text)) (environment : Environment)
    (generation : Generation R) (scored : List (ScoredGame R)) (played : List (GameProfile R)) (session : Session R)
    (distinct : (scored.map fun item => item.game.gameId).Nodup) :
    (∃ after, (GenerateRecommendations.explained generation scored played).run
        (handleExplaining environment (explainer.explain post loads)) session = (.ok after,session) ∧
          Attributed loads text scored after) ↔
      generation.explanations = false ∨ scored = [] ∨ ∀ fault, loads text = .error fault → fault = .valueError := by
  by_cases aside : generation.explanations = false ∨ scored = []
  · refine ⟨fun _ => or_assoc.mp (.inl aside),fun _ => ⟨scored,?_,attributed_own loads text scored⟩⟩
    exact run_explained_aside environment _ generation scored played session aside
  obtain ⟨on,ranked⟩ := not_or.mp aside
  have asked : (explanationRequest scored played).candidates.isEmpty = false := by
    cases scored with
    | nil => exact absurd rfl ranked
    | cons first rest => rfl
  have reads : explainer.explain post loads (explanationRequest scored played) =
      parse loads (.str text) (explanationRequest scored played).candidates := by
    simp only [explain,asked,answers,Bool.false_eq_true,if_false]
  have known := parse_text_total_iff loads text (explanationRequest scored played).candidates
  rw [or_iff_right on,or_iff_right ranked,← known]
  constructor
  · rintro ⟨after,returned,_⟩
    cases parsed : parse loads (.str text) (explanationRequest scored played).candidates with
    | ok reasons => exact ⟨reasons,rfl⟩
    | error fault =>
      rw [run_explained_raised environment _ generation scored played session (Bool.eq_true_of_not_eq_false on) ranked fault
        (reads.trans parsed)] at returned
      cases returned
  · rintro ⟨reasons,parsed⟩
    exact ⟨_,run_explained_answered environment _ generation scored played session reasons (reads.trans parsed),
      attributed_parsed loads environment generation scored played text distinct reasons parsed⟩

end Memory

section Shapes
attribute [local instance] Formats.unread

def suggestedRace : ExplanationRequest where
  liked := []
  candidates := [⟨⟨⟨1⟩⟩,"Race",["racing"],[]⟩]

/-- A refusal, or an answer that is all tool calls, has no text. -/
def wordless : Json ℚ := .dict [("choices",.list [.dict [("message",.dict [("content",.null)])]])]

theorem wordless_answer_raises : ¬∀ (explainer : OpenAiCompatibleExplainer ℚ) (loads : String → Except ExplainFault (Json ℚ))
    (body : Json ℚ) (request : ExplanationRequest), explainer.Safe loads (fun _ => .ok body) request := by
  intro safe
  obtain ⟨reasons,returned,_⟩ := safe (.init "http://localhost" "" "model" 30 800) (fun _ => .error .valueError) wordless
    suggestedRace
  have raised : (OpenAiCompatibleExplainer.init "http://localhost" "" "model" (30 : ℚ) 800).explain (fun _ => .ok wordless)
      (fun _ => .error .valueError) suggestedRace = .error .typeError := by
    rw [OpenAiCompatibleExplainer.explain_posted _ _ _ _ (List.cons_ne_nil _ _) wordless .null rfl rfl]
    rfl
  rw [raised] at returned
  cases returned

attribute [local instance] Casing.unchanged

/-- One reason for one game, where neither text needs escapes. -/
def document (id reason : String) : String :=
  "\x7b\"reasons\": [\x7b\"id\": \"" ++ id ++ "\", \"reason\": \"" ++ reason ++ "\"\x7d]\x7d"

def loadsOne (id reason text : String) : Except ExplainFault (Json ℚ) :=
  if text = document id reason then
    .ok (.dict [("reasons",.list [.dict [("id",.str id),("reason",.str reason)]])])
  else .error .valueError

private theorem loadsOne_documented (id reason text : String) (fault : ExplainFault)
    (failed : loadsOne id reason text = .error fault) : fault = .valueError := by
  unfold loadsOne at failed
  split at failed
  · cases failed
  · exact (Except.error.inj failed).symm

/-- An answer whose message is this text. -/
def worded (text : String) : Json ℚ := .dict [("choices",.list [.dict [("message",.dict [("content",.str text)])]])]

private theorem content_worded (text : String) :
    OpenAiCompatibleExplainer.content (worded text) = .ok (.str text) := rfl

def suggested (id : UUID) : ScoredGame ℚ := ⟨.untitled ⟨id⟩,1,0,["racing"]⟩

def chatExplainer : OpenAiCompatibleExplainer ℚ := .init "http://localhost" "" "model" 30 800

/-- The explanations of a ranking by a model that answers with this text. -/
def Attributes (loads : String → Except ExplainFault (Json ℚ)) (text : String) (scored : List (ScoredGame ℚ)) : Prop :=
  ∃ after, (GenerateRecommendations.explained { content := contentBasedScorer, explanations := true } scored []).run
      (Memory.handleExplaining .fixed (chatExplainer.explain (fun _ => .ok (worded text)) loads)) { store := {} } =
    (.ok after,{ store := {} }) ∧ Memory.Attributed loads text scored after

theorem explained_attributed_second : Attributes (loadsOne (GameId.str ⟨⟨2⟩⟩) " You play racing games. ")
    (document (GameId.str ⟨⟨2⟩⟩) " You play racing games. ") [suggested ⟨1⟩,suggested ⟨2⟩,suggested ⟨3⟩] :=
  (Memory.explained_attributed_iff chatExplainer (fun _ => .ok (worded _)) _ _ (fun _ => content_worded _) .fixed _
    [suggested ⟨1⟩,suggested ⟨2⟩,suggested ⟨3⟩] [] { store := {} } (by decide)).mpr
      (.inr (.inr (loadsOne_documented _ _ _)))

/-- A list in a list, this often. -/
def nested (depth : Nat) : String := String.ofList (List.replicate depth '[' ++ '1' :: List.replicate depth ']')

/-- `json.loads` where it runs out of stack on one text, and takes the others for malformed. -/
def loadsExhausted (deep text : String) : Except ExplainFault (Json ℚ) :=
  if text = deep then .error .other else .error .valueError

private theorem exhausted_raises (deep : String) : ¬Attributes (loadsExhausted deep) deep [suggested ⟨1⟩] := by
  have exhausted : loadsExhausted deep deep = .error .other := if_pos rfl
  have raised : chatExplainer.explain (fun _ => .ok (worded deep)) (loadsExhausted deep)
      (Memory.explanationRequest [suggested ⟨1⟩] []) = .error .other := by
    rw [OpenAiCompatibleExplainer.explain_posted _ _ _ _ (List.cons_ne_nil _ _) (worded deep) (.str deep) rfl rfl]
    simp only [OpenAiCompatibleExplainer.parse,OpenAiCompatibleExplainer.decoded,exhausted]
  rintro ⟨after,returned,_⟩
  rw [Memory.run_explained_raised _ _ _ _ _ _ rfl (List.cons_ne_nil _ _) _ raised] at returned
  cases returned

theorem nested_answer_raises : ¬Attributes (loadsExhausted (nested 500000)) (nested 500000) [suggested ⟨1⟩] :=
  exhausted_raises (nested 500000)

end Shapes
end ArcadiaRecommendation
