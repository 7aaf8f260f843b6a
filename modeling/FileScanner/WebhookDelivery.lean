import FileScanner.Webhook
import FileScanner.WebhookGuard

namespace FileScanner
open Collections Fallible Queues
set_option autoImplicit true

def Accepted (answer : Except Exc Response) : Prop :=
  ∃ response, answer = .ok response ∧ response.Success

def CountedFailed : Except Exc Response → Prop
  | .error _ => True
  | .ok response => response.isRedirect = true ∨ response.Failed

theorem not_countedFailed_of_accepted {answer : Except Exc Response} (h : Accepted answer) :
    ¬ CountedFailed answer := by
  obtain ⟨response, rfl, hs⟩ := h
  rintro (hr | hf)
  · rw [hs.not_isRedirect] at hr
    cases hr
  · exact hs.not_failed hf

theorem requireAccepted_failed (py : Python) {response : Response}
    (h : response.isRedirect = true ∨ response.Failed) :
    ∃ m, requireAccepted py response = .error (.requestException m) := by
  rw [requireAccepted]
  by_cases hr : response.isRedirect = true
  · rw [raiseIf_pos hr]
    exact ⟨_, rfl⟩
  · rw [raiseIf_neg hr]
    exact raiseForStatus_failed (h.resolve_left hr)

theorem requireAccepted_passed (py : Python) {response : Response}
    (h : ¬ (response.isRedirect = true ∨ response.Failed)) :
    requireAccepted py response = .ok () := by
  rw [not_or] at h
  rw [requireAccepted, raiseIf_neg h.1, ok_bind, raiseForStatus_passed h.2]

/-- A receiver whose host is always safe, and which answers or fails as `requests` lets it. -/
structure Reachable (py : Python) (settings : Settings) (env : DeliveryEnv) (webhookUrl : String)
    (body : Bytes) : Prop where
  safe : ∃ dial, validateAndUnpack py settings (env.net.dns 0) webhookUrl = .ok dial
  signed : ∃ token, env.sign webhookUrl body = .ok token
  answers : ∀ e, env.net.serve 0 webhookUrl = .error e → ∃ m, e = .requestException m

def answersOf (envs : Nat → DeliveryEnv) (webhookUrl : String) (i : Nat) : Except Exc Response :=
  (envs i).net.serve 0 webhookUrl

section Delivery
variable {py : Python} {settings : Settings} {envs : Nat → DeliveryEnv} {webhookUrl : String}
  {payload : Dict String Json}

theorem invoke_webhook {i : Nat}
    (h : Reachable py settings (envs i) webhookUrl (webhookBody py payload)) (posts : List Post) :
    let inv := invoke (webhookActor py settings envs webhookUrl payload) i posts
    ∃ post, inv.after = posts ++ [post] ∧ post.answer = answersOf envs webhookUrl i ∧
      ((CountedFailed post.answer ∧ inv.Raised) ∨
        (¬ CountedFailed post.answer ∧ inv.outcome = .ok .delivered)) := by
  intro inv
  obtain ⟨dial, hdial⟩ := h.safe
  obtain ⟨token, htoken⟩ := h.signed
  have hinv : inv = ⟨i, posts,
      retire ((envs i).net.serve 0 webhookUrl >>= requireAccepted py),
      posts ++ [⟨dial, webhookHeaders token, webhookBody py payload,
        (envs i).net.serve 0 webhookUrl⟩]⟩ := by
    simp only [inv, invoke, webhookActor, deliverWebhook, htoken,
      requestWithRedirects_once hdial]
    rfl
  rw [hinv]
  refine ⟨_, rfl, rfl, ?_⟩
  dsimp only [Invocation.Raised]
  cases hserve : (envs i).net.serve 0 webhookUrl with
  | error e =>
    obtain ⟨m, rfl⟩ := h.answers e hserve
    exact .inl ⟨trivial, _, rfl⟩
  | ok response =>
    by_cases hcount : response.isRedirect = true ∨ response.Failed
    · obtain ⟨m, hm⟩ := requireAccepted_failed py hcount
      refine .inl ⟨hcount, .requestException m, ?_⟩
      rw [ok_bind, hm]
      rfl
    · refine .inr ⟨hcount, ?_⟩
      rw [ok_bind, requireAccepted_passed py hcount]
      rfl

end Delivery

def postsOf (invs : List (Invocation (List Post) Exc Delivery)) : List Post :=
  (invs.getLast?.map Invocation.after).getD []

/-- The message was retired by an invocation that counts its callback as delivered. -/
def RetiredDelivered (invs : List (Invocation (List Post) Exc Delivery)) : Prop :=
  ∃ last, invs.getLast? = some last ∧ last.outcome = .ok .delivered

/-- A callback counts as delivered only when the receiver accepted it, any other answer is a
failed attempt, and there are no more POSTs than attempts allowed. -/
structure DeliveredWhenAccepted (settings : Settings)
    (invs : List (Invocation (List Post) Exc Delivery)) : Prop where
  delivered : RetiredDelivered invs ↔
    ∃ post, (postsOf invs).getLast? = some post ∧ Accepted post.answer
  failed : ∀ inv ∈ invs, ∀ post, inv.after = inv.before ++ [post] → ¬ Accepted post.answer →
    inv.Raised
  bounded : (postsOf invs).length ≤ settings.webhookMaxAttempts

/-- The receiver takes the callback within the attempts allowed, and each answer before that is
one the code counts as failed. -/
def AcceptedInTime (settings : Settings) (answer : Nat → Except Exc Response) : Prop :=
  ∃ k < settings.webhookMaxAttempts, Accepted (answer k) ∧ ∀ j < k, CountedFailed (answer j)

section Run
variable {py : Python} {settings : Settings} {envs : Nat → DeliveryEnv} {webhookUrl : String}
  {payload : Dict String Json}

theorem posts_before (h : ∀ i, Reachable py settings (envs i) webhookUrl (webhookBody py payload))
    (maxRetries : Nat) :
    ∀ inv ∈ run (webhookActor py settings envs webhookUrl payload) maxRetries [],
      inv.before.length = inv.retries := by
  apply run_invariant (P := fun i (posts : List Post) => posts.length = i) _ maxRetries [] rfl
  intro i posts e hi _
  obtain ⟨post, hafter, -⟩ := invoke_webhook (h i) posts
  have hlength := congrArg List.length hafter
  rw [List.length_append, List.length_singleton, hi] at hlength
  exact hlength

/-- How a run of deliveries ends: the number of its last attempt, which alone may not raise. -/
structure DeliveryShape (answer : Nat → Except Exc Response) (maxRetries : Nat)
    (invs : List (Invocation (List Post) Exc Delivery))
    (last : Invocation (List Post) Exc Delivery) (post : Post) : Prop where
  isLast : invs.getLast? = some last
  posts : (postsOf invs).getLast? = some post ∧ (postsOf invs).length = last.retries + 1
  answered : post.answer = answer last.retries
  bound : last.retries ≤ maxRetries
  earlier : ∀ j < last.retries, CountedFailed (answer j)
  ended : (CountedFailed post.answer ∧ last.Raised ∧ last.retries = maxRetries) ∨
    (¬ CountedFailed post.answer ∧ last.outcome = .ok .delivered)
  failed : ∀ inv ∈ invs, inv.Raised ∨ inv = last

theorem delivery_shape
    (h : ∀ i, Reachable py settings (envs i) webhookUrl (webhookBody py payload))
    (maxRetries : Nat) :
    ∃ last post, DeliveryShape (answersOf envs webhookUrl) maxRetries
      (run (webhookActor py settings envs webhookUrl payload) maxRetries []) last post := by
  obtain ⟨earlier, last, hs⟩ :=
    run_shape (webhookActor py settings envs webhookUrl payload) maxRetries []
  have hisLast : (run (webhookActor py settings envs webhookUrl payload) maxRetries []).getLast? =
      some last := by
    rw [hs.split, List.getLast?_concat]
  obtain ⟨post, hafter, hanswer, hcases⟩ := invoke_webhook (h last.retries) last.before
  rw [← run_genuine hs.last_mem] at hafter hcases
  have hposts : postsOf (run (webhookActor py settings envs webhookUrl payload) maxRetries []) =
      last.before ++ [post] := by
    rw [postsOf, hisLast, Option.map_some, Option.getD_some, hafter]
  refine ⟨last, post, hisLast, ⟨?_, ?_⟩, hanswer, hs.bound, fun j hj => ?_, ?_,
    fun inv hinv => ?_⟩
  · rw [hposts, List.getLast?_concat]
  · rw [hposts, List.length_append, List.length_singleton,
      posts_before h maxRetries last hs.last_mem]
  · obtain ⟨inv, hinv, rfl⟩ := hs.exists_attempt (Nat.zero_le j) hj
    obtain ⟨post', -, hanswer', hcases'⟩ := invoke_webhook (h inv.retries) inv.before
    rw [← run_genuine (hs.earlier_mem hinv)] at hcases'
    rw [← hanswer']
    rcases hcases' with ⟨hcount, -⟩ | ⟨-, hout⟩
    · exact hcount
    · obtain ⟨e, he⟩ := hs.raised inv hinv
      exact nomatch he.symm.trans hout
  · rcases hcases with ⟨hcount, hraised⟩ | hret
    · refine .inl ⟨hcount, hraised, ?_⟩
      rcases hs.ended with ⟨a, ha⟩ | hmax
      · obtain ⟨e, he⟩ := hraised
        exact nomatch he.symm.trans ha
      · exact hmax
    · exact .inr hret
  · rw [hs.split] at hinv
    rcases List.mem_append.1 hinv with hmem | hmem
    · exact .inl (hs.raised inv hmem)
    · exact .inr (List.mem_singleton.1 hmem)

end Run

/-- A callback is delivered as promised exactly when the receiver accepts it within the attempts
allowed, and refuses it until then in a way the code counts as failed. -/
theorem delivered_when_accepted_iff (py : Python) (settings : Settings)
    (envs : Nat → DeliveryEnv) (webhookUrl : String) (payload : Dict String Json)
    (h : ∀ i, Reachable py settings (envs i) webhookUrl (webhookBody py payload)) :
    DeliveredWhenAccepted settings
        (run (webhookActor py settings envs webhookUrl payload) settings.webhookMaxAttempts []) ↔
      AcceptedInTime settings (answersOf envs webhookUrl) := by
  obtain ⟨last, post, hs⟩ := delivery_shape h settings.webhookMaxAttempts
  obtain ⟨hpost, hlength⟩ := hs.posts
  constructor
  · intro hd
    have hbound := hd.bounded
    rw [hlength] at hbound
    have hout : last.outcome = .ok .delivered := by
      rcases hs.ended with ⟨-, -, hmax⟩ | ⟨-, hout⟩
      · omega
      · exact hout
    obtain ⟨post', hpost', hacc⟩ := hd.delivered.1 ⟨last, hs.isLast, hout⟩
    rw [hpost, Option.some.injEq] at hpost'
    subst hpost'
    rw [hs.answered] at hacc
    exact ⟨last.retries, hbound, hacc, hs.earlier⟩
  · rintro ⟨k, hk, hacc, hbefore⟩
    have hlast : last.retries = k := by
      rcases Nat.lt_trichotomy last.retries k with hlt | heq | hgt
      · rcases hs.ended with ⟨-, -, hmax⟩ | ⟨hno, -⟩
        · omega
        · rw [hs.answered] at hno
          exact absurd (hbefore _ hlt) hno
      · exact heq
      · exact absurd (hs.earlier k hgt) (not_countedFailed_of_accepted hacc)
    subst hlast
    rw [← hs.answered] at hacc
    have hout : last.outcome = .ok .delivered := by
      rcases hs.ended with ⟨hcount, -⟩ | ⟨-, hout⟩
      · exact absurd hcount (not_countedFailed_of_accepted hacc)
      · exact hout
    refine ⟨iff_of_true ⟨last, hs.isLast, hout⟩ ⟨post, hpost, hacc⟩, ?_, ?_⟩
    · intro inv hinv post' hafter hno
      rcases hs.failed inv hinv with hraised | rfl
      · exact hraised
      · have hposts : postsOf (run (webhookActor py settings envs webhookUrl payload)
            settings.webhookMaxAttempts []) = inv.after := by
          rw [postsOf, hs.isLast, Option.map_some, Option.getD_some]
        rw [hposts, hafter, List.getLast?_concat, Option.some.injEq] at hpost
        rw [hpost] at hno
        exact absurd hacc hno
    · rw [hlength]
      exact hk

/-- A receiver on a public host that answers with these status codes in turn, and no other. -/
def receiver (codes : List Nat) (i : Nat) : DeliveryEnv where
  net := ⟨fun _ => publicDns, fun _ url => .ok
    { statusCode := codes.getD i 500, reason := "", url := url, location := none,
      contentLength := none, body := ⟨[], none⟩ }⟩
  sign _ _ := .ok none

def jobPayload : Dict String Json := [("job_id", .str "job")]

def callbackRun (codes : List Nat) : List (Invocation (List Post) Exc Delivery) :=
  run (webhookActor publicPython {} (receiver codes) "https://example.com/hook" jobPayload) 3 []

/-- A redirect without a target is taken for an acceptance, and one POST more is made than
allowed. -/
theorem callback_lost_or_repeated :
    (callbackRun [304]).map (·.outcome) = [.ok .delivered] ∧
      (postsOf (callbackRun [304])).length = 1 ∧
      ¬ DeliveredWhenAccepted {} (callbackRun [304]) ∧
      (postsOf (callbackRun [500, 500, 500, 500])).length = 4 ∧
      ¬ DeliveredWhenAccepted {} (callbackRun [500, 500, 500, 500]) := by
  refine ⟨rfl, rfl, fun h => ?_, rfl, fun h => ?_⟩
  · obtain ⟨post, hpost, response, hr, hsuccess⟩ := h.delivered.1 ⟨_, rfl, rfl⟩
    cases hpost
    cases hr
    exact absurd hsuccess.2 (by decide)
  · exact absurd h.bounded (by decide)

theorem delivered_when_accepted_retried : DeliveredWhenAccepted {} (callbackRun [500, 204]) := by
  refine (delivered_when_accepted_iff publicPython {} (receiver [500, 204])
    "https://example.com/hook" jobPayload (fun i => ⟨⟨_, rfl⟩, ⟨_, rfl⟩, fun _ he => ?_⟩)).2
    ⟨1, by decide, ⟨_, rfl, by decide, by decide⟩, fun j hj => ?_⟩
  · cases he
  · have hzero : j = 0 := by omega
    subst hzero
    exact .inr ⟨by decide, by decide⟩

end FileScanner
