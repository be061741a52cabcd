import StubPlan.Generation.Session
import StubPlan.Proofs.Generation.Information

/-! What a run keeps cannot be told from its answers. Context and rewriter are each absent or what the
options and the description imply, whatever has been asked, and so every request is answered as if
nothing had been asked before. -/
namespace StubPlan

namespace Request

/-- Whether an answer is made with the rewriter. -/
def needsRewriter (d : ApiDescription) : Request → Bool
  | .rewriter | .annotateGroup _ => true
  | .rewriteModels models => !models.isEmpty
  | .generate => !(d.operationGroups.isEmpty && d.models.isEmpty)
  | .context | .properties | .layout | .freshContext => false

/-- Whether an answer is made with the context that is kept. -/
def needsContext (d : ApiDescription) : Request → Bool
  | .context | .properties | .layout | .generate => true
  | r => r.needsRewriter d

lemma needsContext_of_needsRewriter {d : ApiDescription} {r : Request} (h : r.needsRewriter d) :
    r.needsContext d := by
  cases r with
  | generate => rfl
  | context | properties | layout | freshContext => exact absurd h Bool.false_ne_true
  | _ => exact h

end Request

def Answer.context? : Answer → Option Context
  | .context c => some c
  | .generated g => some g.context
  | _ => none

/-- All that a context gives for the groups and models of a description, in order. -/
def Generated.ofContext (d : ApiDescription) (c : Context) : Generated where
  context := c
  groups := d.operationGroups.map (OperationGroup.annotate (some (Session.rewriterFor c)))
  models := d.models.map Model.rewrite

namespace Session

/-- The answers to requests, one after another. -/
def answers : Session → List Request → List (Except Obstacle Answer)
  | _, [] => []
  | s, r :: rest => (s.answer r).1 :: (s.answer r).2.answers rest

def after : Session → List Request → Session
  | s, [] => s
  | s, r :: rest => (s.answer r).2.after rest

/-- The context that the options and the description of a run imply. -/
def resolved (s : Session) : Except Obstacle Context := Context.resolve s.options s.description

/-- Whether a run keeps nothing but what its options and its description imply. -/
structure IsFaithful (s : Session) : Prop where
  context : ∀ c, s.context? = some c → s.resolved = .ok c
  rewriter : ∀ r, s.rewriter? = some r → ∃ c, s.context? = some c ∧ r = rewriterFor c

/-- The run with its context made and kept, if it can be made. -/
def withContext (s : Session) : Session := { s with context? := s.resolved.toOption }

/-- The run with its rewriter made and kept, if it can be made. -/
def withRewriter (s : Session) : Session :=
  { s.withContext with rewriter? := (s.resolved.map rewriterFor).toOption }

def reply (s : Session) : Request → Except Obstacle Answer
  | .context | .freshContext => s.resolved.map .context
  | .properties => s.resolved.map fun c => .properties c.properties
  | .layout => s.resolved.map fun c => .layout c.layout
  | .rewriter => s.resolved.map fun c => .rewriter (rewriterFor c)
  | .annotateGroup group => s.resolved.map fun c => .group (group.annotate (some (rewriterFor c)))
  | .rewriteModels models =>
    if models.isEmpty then .ok (.models [])
    else s.resolved.map fun _ => .models (models.map Model.rewrite)
  | .generate => s.resolved.map fun c => .generated (.ofContext s.description c)

/-- The run after requests, by what they need. -/
def keeping (s : Session) (requests : List Request) : Session where
  options := s.options
  description := s.description
  context? := if requests.any (·.needsContext s.description) then s.resolved.toOption else s.context?
  rewriter? :=
    if requests.any (·.needsRewriter s.description) then (s.resolved.map rewriterFor).toOption
    else s.rewriter?

/-- The run after a request, by what the request needs. -/
def afterReply (s : Session) (r : Request) : Session :=
  if r.needsRewriter s.description then s.withRewriter
  else if r.needsContext s.description then s.withContext
  else s

section Fields

variable (s : Session)

@[simp] lemma options_withContext : s.withContext.options = s.options := rfl

@[simp] lemma description_withContext : s.withContext.description = s.description := rfl

@[simp] lemma context?_withContext : s.withContext.context? = s.resolved.toOption := rfl

@[simp] lemma rewriter?_withContext : s.withContext.rewriter? = s.rewriter? := rfl

@[simp] lemma resolved_withContext : s.withContext.resolved = s.resolved := rfl

@[simp] lemma options_withRewriter : s.withRewriter.options = s.options := rfl

@[simp] lemma description_withRewriter : s.withRewriter.description = s.description := rfl

@[simp] lemma context?_withRewriter : s.withRewriter.context? = s.resolved.toOption := rfl

@[simp] lemma rewriter?_withRewriter :
    s.withRewriter.rewriter? = (s.resolved.map rewriterFor).toOption := rfl

@[simp] lemma resolved_withRewriter : s.withRewriter.resolved = s.resolved := rfl

end Fields

variable {s : Session}

lemma context?_afterReply {r : Request} (h : r.needsContext s.description) :
    (s.afterReply r).context? = s.resolved.toOption := by
  unfold afterReply
  split
  · rw [context?_withRewriter]
  · rw [context?_withContext]

lemma context?_eq_none_of_map {f : Context → Answer} {a : Answer} (hf : ∀ c, (f c).context? = none)
    (h : s.resolved.map f = .ok a) : a.context? = none := by
  obtain ⟨c, -, rfl⟩ := Except.map_eq_ok_iff.mp h
  exact hf c

lemma resolved_of_map {f : Context → Answer} {a : Answer} {c : Context}
    (hf : ∀ c, (f c).context? = some c) (h : s.resolved.map f = .ok a) (hc : a.context? = some c) :
    s.resolved = .ok c := by
  obtain ⟨made, hmade, rfl⟩ := Except.map_eq_ok_iff.mp h
  rw [hf made] at hc
  rw [hmade, Option.some.inj hc]

/-- Only the context that options and description imply is in an answer. -/
lemma resolved_of_reply {r : Request} {a : Answer} {c : Context} (h : s.reply r = .ok a)
    (hc : a.context? = some c) : s.resolved = .ok c := by
  have hnone (hnone : a.context? = none) : s.resolved = .ok c :=
    absurd (hnone.symm.trans hc) (by simp)
  cases r with
  | context | freshContext | generate => exact resolved_of_map (fun _ => rfl) h hc
  | properties | layout | rewriter | annotateGroup =>
    exact hnone (context?_eq_none_of_map (fun _ => rfl) h)
  | rewriteModels models =>
    rcases models with _ | ⟨model, rest⟩
    · obtain rfl := Except.ok.inj h
      exact hnone rfl
    · exact hnone (context?_eq_none_of_map (fun _ => rfl) h)

lemma isFaithful_start (o : Options) (d : ApiDescription) : (start o d).IsFaithful where
  context := fun c h => absurd h (by simp [start])
  rewriter := fun r h => absurd h (by simp [start])

lemma isFaithful_withRewriter (s : Session) : s.withRewriter.IsFaithful where
  context := by
    intro c h
    rw [context?_withRewriter] at h
    cases hr : s.resolved <;> simp_all [Except.toOption]
  rewriter := by
    intro r h
    rw [rewriter?_withRewriter] at h
    cases hr : s.resolved <;> simp_all [Except.toOption, Except.map]

namespace IsFaithful

section Step

/-! One request: what it is answered, and what is kept after it. -/

variable (h : s.IsFaithful)
include h

lemma withContext : s.withContext.IsFaithful where
  context := s.isFaithful_withRewriter.context
  rewriter := by
    intro r hr
    obtain ⟨c, hc, rfl⟩ := h.rewriter r hr
    exact ⟨c, by simp [Session.withContext, h.context c hc, Except.toOption], rfl⟩

lemma withContext_eq_self {c : Context} (hc : s.context? = some c) : s.withContext = s := by
  rw [Session.withContext, h.context c hc, Except.toOption, ← hc]

lemma withRewriter_eq_self {r : ImportRewriter} (hr : s.rewriter? = some r) :
    s.withRewriter = s := by
  obtain ⟨c, hc, rfl⟩ := h.rewriter r hr
  rw [Session.withRewriter, h.withContext_eq_self hc, h.context c hc, Except.map, Except.toOption,
    ← hr]

lemma context_eq : s.context = (s.resolved, s.withContext) := by
  unfold Session.context
  split
  · next c hc => rw [h.context c hc, h.withContext_eq_self hc]
  · next hnone =>
    split
    · next c hc =>
      have hresolved : s.resolved = .ok c := hc
      simp [hresolved, Session.withContext, Except.toOption]
    · next e he =>
      have hresolved : s.resolved = .error e := he
      simp [hresolved, Session.withContext, Except.toOption, ← hnone]

lemma rewriter_eq : s.rewriter = (s.resolved.map rewriterFor, s.withRewriter) := by
  unfold Session.rewriter
  split
  · next r hr =>
    obtain ⟨c, hc, rfl⟩ := h.rewriter r hr
    rw [h.context c hc, h.withRewriter_eq_self hr]
    rfl
  · next hnone =>
    rw [h.context_eq]
    rcases hresolved : s.resolved with e | c
    · have hkept : s.withRewriter = s.withContext := by
        simp [Session.withRewriter, Session.withContext, hresolved, Except.map, Except.toOption,
          ← hnone]
      simp [hkept, Except.map]
    · simp [Session.withRewriter, hresolved, Except.map, Except.toOption]

lemma fromContext_eq (answer : Context → Answer) :
    s.fromContext answer = (s.resolved.map answer, s.withContext) := by
  rw [fromContext, h.context_eq]

lemma fromRewriter_eq (answer : ImportRewriter → Answer) :
    s.fromRewriter answer = (s.resolved.map fun c => answer (rewriterFor c), s.withRewriter) := by
  rw [fromRewriter, h.rewriter_eq]
  cases s.resolved <;> rfl

/-- Without groups and models nothing but the context is made. -/
lemma generate_eq : s.generate = (s.resolved.map (Generated.ofContext s.description),
    if Request.generate.needsRewriter s.description then s.withRewriter else s.withContext) := by
  by_cases hempty : s.description.operationGroups.isEmpty && s.description.models.isEmpty
  · obtain ⟨hgroups, hmodels⟩ := Bool.and_eq_true_iff.mp hempty
    have hgroups := List.isEmpty_iff.mp hgroups
    have hmodels := List.isEmpty_iff.mp hmodels
    have hnone : Generated.ofContext s.description = fun c => ⟨c, [], []⟩ := by
      funext c
      simp [Generated.ofContext, hgroups, hmodels]
    simp [generate, Request.needsRewriter, h.context_eq, hnone, hgroups, hmodels]
  · have hkept := s.isFaithful_withRewriter.context_eq
    rw [generate, h.rewriter_eq]
    simp only [hempty, Request.needsRewriter]
    rcases hresolved : s.resolved with e | c
    · rfl
    · have hcontext : s.withRewriter.context = (.ok c, s.withRewriter) := by
        rw [hkept, ← hresolved]
        rfl
      simp only [Except.map, Bool.not_false, if_true, hcontext]
      rfl

/-- Every request is answered as the context implies, and nothing is kept but what it needs. -/
lemma answer_eq (r : Request) : s.answer r = (s.reply r, s.afterReply r) := by
  cases r with
  | context | properties | layout => exact h.fromContext_eq _
  | rewriter | annotateGroup => exact h.fromRewriter_eq _
  | freshContext => rfl
  | rewriteModels models =>
    rcases models with _ | ⟨model, rest⟩
    · rfl
    · exact h.fromRewriter_eq _
  | generate =>
    rw [answer, h.generate_eq]
    cases hneeds : Request.generate.needsRewriter s.description <;>
      cases hresolved : s.resolved <;>
        simp [reply, Session.afterReply, hneeds, hresolved, Request.needsContext, Except.map]

/-- A context that is kept stays. -/
lemma context?_afterReply {c : Context} (hc : s.context? = some c) (r : Request) :
    (s.afterReply r).context? = some c := by
  have hmade : s.resolved.toOption = some c := by rw [h.context c hc]; rfl
  unfold Session.afterReply
  split
  · exact hmade
  · split
    · exact hmade
    · exact hc

lemma afterReply (r : Request) : (s.afterReply r).IsFaithful := by
  unfold Session.afterReply
  split
  · exact s.isFaithful_withRewriter
  · split
    · exact h.withContext
    · exact h

end Step

end IsFaithful

section Run

/-! Any number of requests: what one of them keeps is what all of them keep. -/

lemma reply_afterReply (s : Session) (r : Request) : (s.afterReply r).reply = s.reply := by
  unfold afterReply
  split
  · rfl
  · split <;> rfl

lemma keeping_nil (s : Session) : s.keeping [] = s := rfl

/-- What a request keeps, the requests after it keep. -/
lemma keeping_afterReply (s : Session) (r : Request) (rest : List Request) :
    (s.afterReply r).keeping rest = s.keeping (r :: rest) := by
  rcases hrewriter : r.needsRewriter s.description with _ | _
  · rcases hcontext : r.needsContext s.description with _ | _
    · have hsame : s.afterReply r = s := by simp [afterReply, hrewriter, hcontext]
      simp [hsame, keeping, hrewriter, hcontext]
    · have hmade : s.afterReply r = s.withContext := by simp [afterReply, hrewriter, hcontext]
      simp [hmade, keeping, hrewriter, hcontext]
  · have hcontext := Request.needsContext_of_needsRewriter hrewriter
    have hmade : s.afterReply r = s.withRewriter := by simp [afterReply, hrewriter]
    simp [hmade, keeping, hrewriter, hcontext]

variable (h : s.IsFaithful) (requests : List Request)
include h

lemma IsFaithful.answers_eq : s.answers requests = requests.map s.reply := by
  induction requests generalizing s with
  | nil => rfl
  | cons r rest ih =>
    rw [answers, h.answer_eq r, List.map_cons, ih (h.afterReply r), reply_afterReply]

lemma IsFaithful.after_eq : s.after requests = s.keeping requests := by
  induction requests generalizing s with
  | nil => rw [after, keeping_nil]
  | cons r rest ih =>
    rw [after, h.answer_eq r, ih (h.afterReply r), keeping_afterReply]

lemma IsFaithful.after : (s.after requests).IsFaithful := by
  induction requests generalizing s with
  | nil => exact h
  | cons r rest ih =>
    rw [Session.after, h.answer_eq r]
    exact ih (h.afterReply r)

end Run

/-- What a run keeps cannot be told from its answers: each request is answered as by a run that is just
started. Context and rewriter are kept once a request has needed them and not before. From then on the
context stays, and the one in an answer is the one that is kept, unless a fresh one was asked for. All
that is generated is made of it, for every group and every model of the description in order. -/
theorem answers_start (o : Options) (d : ApiDescription) (requests : List Request) :
    let s := (start o d).after requests
    (start o d).answers requests = requests.map (fun r => ((start o d).answer r).1) ∧
    s = ⟨o, d,
      if requests.any (·.needsContext d) then (Context.resolve o d).toOption else none,
      if requests.any (·.needsRewriter d) then ((Context.resolve o d).map rewriterFor).toOption
      else none⟩ ∧
    (∀ r c, (s.context? = some c → (s.answer r).2.context? = some c) ∧
      ∀ a, r.needsContext d → (s.answer r).1 = .ok a → a.context? = some c →
        (s.answer r).2.context? = some c) ∧
    (s.answer .generate).1 = (Context.resolve o d).map fun c => .generated (.ofContext d c) := by
  intro s
  have hstart := isFaithful_start o d
  have hs : s.IsFaithful := hstart.after requests
  have hkept : s = (start o d).keeping requests := hstart.after_eq requests
  have hdescription : s.description = d := by rw [hkept]; rfl
  have hresolved : s.resolved = Context.resolve o d := by rw [hkept]; rfl
  refine ⟨?_, hkept, fun r c => ⟨?_, ?_⟩, ?_⟩
  · rw [hstart.answers_eq requests]
    refine List.map_congr_left fun r _ => ?_
    rw [hstart.answer_eq r]
  · intro hc
    rw [hs.answer_eq r]
    exact hs.context?_afterReply hc r
  · intro a hneeds ha hc
    rw [hs.answer_eq r] at ha ⊢
    rw [← hdescription] at hneeds
    rw [context?_afterReply hneeds, resolved_of_reply ha hc]
    rfl
  · rw [hs.answer_eq, reply, hresolved, hdescription]

/-- A context that was asked for only afresh is not kept; one that a layout was made of is, and it is
the one in all that is generated later. -/
theorem answers_start_layout :
    let d : ApiDescription :=
      { ApiDescription.empty with models := [⟨"Pet", [], []⟩, ⟨"Owner", [], []⟩] }
    let s := start Options.unset d
    (s.after [.freshContext]).context? = none ∧
      ∃ c, Context.resolve Options.unset d = .ok c ∧
        (s.after [.freshContext, .layout]).context? = some c ∧
        ((s.after [.freshContext, .layout]).answer .rewriter).2.context? = some c ∧
        ((s.after [.freshContext, .layout]).answer .generate).2.context? = some c ∧
        ((s.after [.freshContext, .layout]).answer .generate).1 =
          .ok (.generated (.ofContext d c)) := by
  intro d s
  obtain ⟨c, hc, -⟩ := Context.exists_tells Options.isValid_unset d
  obtain ⟨-, hafter, hcontext, hgenerate⟩ :=
    answers_start Options.unset d [.freshContext, .layout]
  have hkept : (s.after [.freshContext, .layout]).context? = some c := by
    rw [hafter, hc]
    rfl
  have hgenerated : ((s.after [.freshContext, .layout]).answer .generate).1 =
      .ok (.generated (.ofContext d c)) := by
    rw [hgenerate, hc]
    rfl
  exact ⟨rfl, c, hc, hkept, (hcontext .rewriter c).1 hkept,
    (hcontext .generate c).2 _ rfl hgenerated rfl, hgenerated⟩

end Session
end StubPlan
