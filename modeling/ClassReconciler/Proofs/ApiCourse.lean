import ClassReconciler.Api.Client
import ClassReconciler.Proofs.Course

/-!
# Courses of exchanges

What holds of an exchange with every server whose replies are as a `ReplyRule` admits them. A
server is a function of the log so far, so that it may reply to a request as it pleases, and
`Exchange.runAgainst` is the run with it (`Exchange.runAgainst_ensures`).

An action that is run by a client is an action whose calls are answered by what the client makes of
the replies (`ApiClient.Answers`). With these answers an action ensures what its run by the client
does (`ApiClient.run_ensures`), so that the exchanges of single calls are all that has to be looked
at.
-/

namespace ClassReconciler

/-! ## Ends of courses -/

namespace Dialogue

variable {Q : Type} {Answer : Q → Type} {σ α : Type}

/-- A course with allowed answers leads from one state to an end in another. -/
inductive Reaches (answers : σ → (q : Q) → Answer q → σ → Prop) :
    Dialogue Answer α → σ → α → σ → Prop where
  | done (a : α) (s : σ) : Reaches answers (.done a) s a s
  | ask {q : Q} {next : Answer q → Dialogue Answer α} {s s₁ s' : σ} {x : Answer q} {a : α}
    (answer : answers s q x s₁) (rest : Reaches answers (next x) s₁ a s') :
    Reaches answers (.ask q next) s a s'

/-- What a dialogue ensures of its end is what holds at every end. -/
theorem ensures_iff_reaches {answers : σ → (q : Q) → Answer q → σ → Prop}
    {d : Dialogue Answer α} {s : σ} {post : α → σ → Prop} :
    d.Ensures answers (fun _ _ => True) s post ↔
      ∀ a s', d.Reaches answers s a s' → post a s' := by
  induction d generalizing s with
  | done a =>
    constructor
    · rintro h _ _ ⟨⟩
      exact h
    · exact fun h => h a s (.done a s)
  | ask q next ih =>
    constructor
    · intro h a s' hd
      cases hd with
      | ask answer rest => exact (ih _).1 (h.2 _ _ answer) a s' rest
    · exact fun h => ⟨trivial, fun x s₁ answer =>
        (ih x).2 fun a s' rest => h a s' (.ask answer rest)⟩

end Dialogue

/-! ## Servers -/

/-- Requests with their replies, in order. -/
abbrev RequestLog : Type := List (Request × Reply)

/-- Which replies may be given to a request. -/
abbrev ReplyRule : Type := Request → Reply → Prop

/-- A request is answered by a reply that the rule admits, and logged. Waiting and looking at the
clock are not. -/
def ReplyRule.Answers (rule : ReplyRule) (log : RequestLog) :
    (q : ExchangeStep) → q.Answer → RequestLog → Prop
  | .send r _, (reply : Reply), log' => rule r reply ∧ log' = log ++ [(r, reply)]
  | .wait _, _, log' | .clock, _, log' => log' = log

namespace Exchange

variable {α β : Type} {rule : ReplyRule} {log : RequestLog}

/-- On every course on which each reply is one that the rule admits, the end is as wanted. -/
abbrev Ensures (rule : ReplyRule) (x : Exchange α) (log : RequestLog)
    (post : α → RequestLog → Prop) : Prop :=
  Dialogue.Ensures rule.Answers (fun _ _ => True) x log post

/-- Runs an exchange with a server that replies in time, by what it was asked and has replied. -/
def runAgainst (serve : RequestLog → Request → Reply) (log : RequestLog) :
    Exchange α → α × RequestLog
  | .done a => (a, log)
  | .ask (.send r _) next =>
    let reply := serve log r
    runAgainst serve (log ++ [(r, reply)]) (next reply)
  | .ask (.wait _) next => runAgainst serve log (next ())
  | .ask .clock next => runAgainst serve log (next (0 : Nat))

theorem runAgainst_bind (serve : RequestLog → Request → Reply) (log : RequestLog)
    (x : Exchange α) (f : α → Exchange β) : (x >>= f).runAgainst serve log =
      (f (x.runAgainst serve log).1).runAgainst serve (x.runAgainst serve log).2 := by
  induction x generalizing log with
  | done a => rfl
  | ask q next ih => cases q with
    | send r limit => exact ih _ _
    | wait ms => exact ih () log
    | clock => exact ih (0 : Nat) log

/-- The log goes on. -/
theorem prefix_runAgainst (serve : RequestLog → Request → Reply) (log : RequestLog)
    (x : Exchange α) : log <+: (x.runAgainst serve log).2 := by
  induction x generalizing log with
  | done a => exact List.prefix_rfl
  | ask q next ih => cases q with
    | send r limit => exact (List.prefix_append log _).trans (ih _ _)
    | wait ms => exact ih () log
    | clock => exact ih (0 : Nat) log

/-- What is logged in a run was replied by the server. -/
theorem mem_runAgainst {serve : RequestLog → Request → Reply} {x : Exchange α}
    {e : Request × Reply} (h : e ∈ (x.runAgainst serve log).2) :
    e ∈ log ∨ ∃ before, e.2 = serve before e.1 := by
  induction x generalizing log with
  | done a => exact Or.inl h
  | ask q next ih => cases q with
    | send r limit =>
      rcases ih _ h with hlog | hserved
      · rcases List.mem_append.1 hlog with hlog | he
        · exact Or.inl hlog
        · rw [List.mem_singleton.1 he]
          exact Or.inr ⟨log, rfl⟩
      · exact Or.inr hserved
    | wait ms => exact ih () h
    | clock => exact ih (0 : Nat) h

/-- An exchange ends as it ensures, if the rule admits the replies that it was given. -/
theorem runAgainst_ensures {serve : RequestLog → Request → Reply} {x : Exchange α}
    {post : α → RequestLog → Prop} (h : x.Ensures rule log post)
    (hreplies : ∀ e ∈ (x.runAgainst serve log).2, rule e.1 e.2) :
    post (x.runAgainst serve log).1 (x.runAgainst serve log).2 := by
  induction x generalizing log with
  | done a => exact h
  | ask q next ih => cases q with
    | send r limit =>
      have hlogged : (r, serve log r) ∈ (runAgainst serve log (.ask (.send r limit) next)).2 :=
        (prefix_runAgainst serve (log ++ [(r, serve log r)]) (next _)).subset (by simp)
      exact ih _ (h.2 _ _ ⟨hreplies _ hlogged, rfl⟩) hreplies
    | wait ms => exact ih () (h.2 () log rfl) hreplies
    | clock => exact ih (0 : Nat) (h.2 (0 : Nat) log rfl) hreplies

theorem ensures_bind {x : Exchange α} {f : α → Exchange β} {post : β → RequestLog → Prop} :
    (x >>= f).Ensures rule log post ↔
      x.Ensures rule log fun a log' => (f a).Ensures rule log' post :=
  Dialogue.ensures_bind x f log post

/-- A request that is sent is answered by a reply that is read. -/
theorem ensures_send {limit : Option Nat} {r : Request} {decode : Decoder Document α}
    {post : Except CallFailure α → RequestLog → Prop}
    (h : ∀ reply, rule r reply → post (reply.read decode) (log ++ [(r, reply)])) :
    (Exchange.send limit (some r) decode).Ensures rule log post := by
  refine ⟨trivial, fun reply log' hreply => ?_⟩
  obtain ⟨hrule, rfl⟩ := hreply
  exact h reply hrule

end Exchange

/-! ## Clients -/

namespace ApiClient

variable {α β : Type} {cfg : ApiConfig} {rule : ReplyRule}

/-- A client at work: what it has learnt, and the log of its requests. -/
abbrev Session : Type := ApiClient × RequestLog

/-- A call is answered by the exchange of the client, a warning is published. -/
def Answers (cfg : ApiConfig) (rule : ReplyRule) (s : Session) :
    (e : Effect) → e.Answer → Session → Prop
  | .call c, a, s' => (s.1.perform cfg c).Reaches rule.Answers s.2 (a, s'.1) s'.2
  | .warn w, _, s' => ∃ events, s'.1 = { s.1 with events } ∧
    (s.1.events.publish cfg.controller w).Reaches rule.Answers s.2 events s'.2

/-- What an action ensures with the answers of a client holds of its exchange. -/
theorem run_ensures {a : Action α} {s : Session} {post : α → Session → Prop}
    (h : a.Ensures (Answers cfg rule) (fun _ _ => True) s post) :
    (ApiClient.run cfg s.1 a).Ensures rule s.2 fun r log => post r.1 (r.2, log) := by
  induction a generalizing s with
  | done a => exact h
  | ask q next ih => cases q with
    | call c =>
      refine Exchange.ensures_bind.2 (Dialogue.ensures_iff_reaches.2 fun r log hr => ?_)
      exact ih r.1 (h.2 r.1 (r.2, log) hr)
    | warn w =>
      refine Exchange.ensures_bind.2 (Dialogue.ensures_iff_reaches.2 fun events log hr => ?_)
      exact ih () (h.2 () ({ s.1 with events }, log) ⟨events, rfl, hr⟩)

/-- A call ensures what its exchange does. -/
theorem ensures_call {c : StoreCall} {s : Session} {post : c.Result → Session → Prop}
    (h : (s.1.perform cfg c).Ensures rule s.2 fun r log => post r.1 (r.2, log)) :
    (Action.call c).Ensures (Answers cfg rule) (fun _ _ => True) s post :=
  ⟨trivial, fun a s' hr => Dialogue.ensures_iff_reaches.1 h (a, s'.1) s'.2 hr⟩

/-- A warning ensures what its publication does. -/
theorem ensures_warn {w : Warning} {s : Session} {post : Unit → Session → Prop}
    (h : (s.1.events.publish cfg.controller w).Ensures rule s.2 fun events log =>
      post () ({ s.1 with events }, log)) :
    (Action.warn w).Ensures (Answers cfg rule) (fun _ _ => True) s post := by
  refine ⟨trivial, fun _ s' hr => ?_⟩
  obtain ⟨events, hclient, hr⟩ := hr
  rw [show s' = ({ s.1 with events }, s'.2) by rw [← hclient]]
  exact Dialogue.ensures_iff_reaches.1 h events s'.2 hr

/-- A request of a call is answered by a reply that is read. -/
theorem ensures_send {name : String} {r : Request} {decode : Decoder Document α}
    {read : Except CallFailure α → Except CallFailure β} {log : RequestLog}
    {post : Except StoreError β → RequestLog → Prop}
    (h : ∀ reply, rule r reply →
      post ((read (reply.read decode)).mapError (·.toStoreError name)) (log ++ [(r, reply)])) :
    (send cfg name (some r) decode read).Ensures rule log post :=
  Exchange.ensures_bind.2 (Exchange.ensures_send h)

/-- The exchange of a request adds the request with its reply to the log, if it can be sent. -/
theorem runAgainst_send (cfg : ApiConfig) (name : String) (request : Option Request)
    (decode : Decoder Document α) (read : Except CallFailure α → Except CallFailure β)
    (serve : RequestLog → Request → Reply) (log : RequestLog) :
    ((send cfg name request decode read).runAgainst serve log).2 =
      log ++ request.toList.map fun r => (r, serve log r) := by
  cases request with
  | none => exact (List.append_nil log).symm
  | some r => rfl

/-- A call of one request adds that request to the log, if it can be sent. -/
theorem exists_sent {cfg : ApiConfig} {name : String} {request : Option Request}
    {decode : Decoder Document α} {read : Except CallFailure α → Except CallFailure β}
    {p : Request → Prop} (hp : ∀ r, request = some r → p r) (client : ApiClient)
    (serve : RequestLog → Request → Reply) (log : RequestLog) :
    ∃ sent, ((send cfg name request decode read >>= fun a => pure (a, client)).runAgainst
      serve log).2 = log ++ sent ∧ (∀ e ∈ sent, p e.1) ∧
        ∀ r, request = some r → ∃ reply, sent = [(r, reply)] := by
  refine ⟨request.toList.map fun r => (r, serve log r), ?_, fun e he => ?_, fun r hr => ?_⟩
  · rw [Exchange.runAgainst_bind]
    exact runAgainst_send ..
  · obtain ⟨r, hr, rfl⟩ := List.mem_map.1 he
    exact hp r (Option.mem_toList.1 hr)
  · exact ⟨serve log r, by rw [hr]; rfl⟩

/-- A reconcile goes on with what a call is answered, or ends with its error. -/
theorem ensures_callOrFail_bind {c : StoreCall} {f : c.Answer → ReconcileAction β} {s : Session}
    {post : Except ReconcileError β → Session → Prop}
    (h : (s.1.perform cfg c).Ensures rule s.2 fun r log =>
      match r.1 with
      | .ok a => (f a).run.Ensures (Answers cfg rule) (fun _ _ => True) (r.2, log) post
      | .error e => post (.error (.store e)) (r.2, log)) :
    (callOrFail c >>= f).run.Ensures (Answers cfg rule) (fun _ _ => True) s post := by
  refine (ensures_exceptT_bind _ _ _ _).2 ((Dialogue.ensures_map _ _ _ _).2 (ensures_call ?_))
  refine h.imp fun r log hr => ?_
  obtain ⟨r, client⟩ := r
  cases r with
  | ok a => exact hr
  | error e => exact hr

end ApiClient

end ClassReconciler
