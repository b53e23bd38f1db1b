import CorpusForge.Work

/-!
# The exchanges of a work

What a work asks and what it is answered are its *exchanges*. `Work.Leads` says which exchanges a
work may take and what is left of it then, for answers of any kind: those of a host, and those of
a host that others have used in between.

* `Work.leads_bind`: the exchanges of one work after the other;
* `Work.exists_leads_perform`: a work that is performed has its exchanges.
-/

namespace CorpusForge

/-- A request and its answer. -/
abbrev Exchange := Sigma Request.Answer

/-- The file that a call stages. -/
def Call.staged? : Call → Option String
  | stage file => some file
  | _ => none

namespace Exchange

/-- The call that is asked for. -/
def call? : Exchange → Option Call
  | ⟨.call _ c, _⟩ => some c
  | _ => none

/-- The file that is passed to `stage`. -/
def staged? (exchange : Exchange) : Option String := exchange.call?.bind Call.staged?

/-- The request was refused. -/
def isRefused : Exchange → Bool
  | ⟨.makeDirs _, answer⟩ | ⟨.writeFile _ _, answer⟩ => !answer.isOk
  | ⟨.render _ _ _ _, answer⟩ => !answer.isOk
  | ⟨.call _ _, answer⟩ => !answer.isOk

/-- What was thrown at calls has a text. -/
def AreTold (t : List Exchange) : Prop :=
  ∀ path c thrown, ⟨.call path c, .error thrown⟩ ∈ t → thrown.text? ≠ none

theorem areTold_append {t t' : List Exchange} (h : AreTold t) (h' : AreTold t') :
    AreTold (t ++ t') := fun path c thrown hmem =>
  (List.mem_append.1 hmem).elim (h path c thrown) (h' path c thrown)

/-- A commit was accepted. -/
def isCommit : Exchange → Bool
  | ⟨.call _ c, answer⟩ => c.isCommit && answer.isOk
  | _ => false

end Exchange

namespace Work

variable {α β σ : Type} {x x' : Work α} {f : α → Work β} {t t' : List Exchange}

/-- The exchanges `t` lead from one work to another. -/
inductive Leads : Work α → List Exchange → Work α → Prop where
  | refl (work : Work α) : Leads work [] work
  | head {request : Request} {next : request.Answer → Work α} {answer : request.Answer}
      {t : List Exchange} {work : Work α} (h : Leads (next answer) t work) :
      Leads (.ask request next) (⟨request, answer⟩ :: t) work

theorem leads_done_iff {result : α} : (done result).Leads t x ↔ t = [] ∧ x = done result := by
  constructor
  · intro h
    cases h
    exact ⟨rfl, rfl⟩
  · rintro ⟨rfl, rfl⟩
    exact .refl _

theorem Leads.trans {x'' : Work α} (h : x.Leads t x') (h' : x'.Leads t' x'') :
    x.Leads (t ++ t') x'' := by
  induction h with
  | refl => exact h'
  | head _ ih => exact .head (ih h')

/-- One more request is answered. -/
theorem Leads.answered {request : Request} {next : request.Answer → Work α}
    (h : x.Leads t (.ask request next)) (answer : request.Answer) :
    x.Leads (t ++ [⟨request, answer⟩]) (next answer) := h.trans (.head (.refl _))

/-- One work after the other. -/
theorem Leads.bind {first : α} {y : Work β} (h : x.Leads t (done first))
    (hf : (f first).Leads t' y) : (x.bind f).Leads (t ++ t') y := by
  induction x generalizing t with
  | done result =>
    obtain ⟨rfl, hdone⟩ := leads_done_iff.1 h
    cases hdone
    exact hf
  | ask request next ih =>
    cases h with
    | head h => exact .head (ih _ h)

/-- The exchanges of one work after the other: either the first one has something left to ask, or
    it is done, and the rest of them are those of the second one. -/
theorem leads_bind {y : Work β} (h : (x.bind f).Leads t y) :
    (∃ request next, x.Leads t (ask request next) ∧
      y = ask request fun answer => (next answer).bind f) ∨
    ∃ t₁ t₂ result, t = t₁ ++ t₂ ∧ x.Leads t₁ (done result) ∧ (f result).Leads t₂ y := by
  -- the exchanges may stop in the first work, or lead through it
  induction x generalizing t with
  | done result => exact .inr ⟨[], t, result, rfl, .refl _, h⟩
  | ask request next ih =>
    cases h with
    | refl => exact .inl ⟨request, next, .refl _, rfl⟩
    | @head _ _ answer t _ h =>
      rcases ih answer h with ⟨request', next', hx, rfl⟩ | ⟨t₁, t₂, result, rfl, hx, hf⟩
      · exact .inl ⟨request', next', .head hx, rfl⟩
      · exact .inr ⟨_ :: t₁, t₂, result, rfl, .head hx, hf⟩

/-- Work that is done after another is done in both. -/
theorem leads_bind_done {result : β} (h : (x.bind f).Leads t (done result)) :
    ∃ t₁ t₂ first, t = t₁ ++ t₂ ∧ x.Leads t₁ (done first) ∧
      (f first).Leads t₂ (done result) := by
  rcases leads_bind h with ⟨_, _, -, hask⟩ | hboth
  · exact nomatch hask
  · exact hboth

/-- When nothing is asked after the first work, all exchanges are its own. -/
theorem exists_leads_of_bind_done {y : Work β} (hf : ∀ result, ∃ b, f result = done b)
    (h : (x.bind f).Leads t y) : ∃ x', x.Leads t x' := by
  rcases leads_bind h with ⟨_, _, hx, -⟩ | ⟨t₁, t₂, result, rfl, hx, hrest⟩
  · exact ⟨_, hx⟩
  · obtain ⟨b, hb⟩ := hf result
    rw [hb] at hrest
    rw [(leads_done_iff.1 hrest).1, List.append_nil]
    exact ⟨_, hx⟩

/-- All that a work may ask is as `p` says. -/
def Asks (p : Request → Prop) (x : Work α) : Prop :=
  ∀ ⦃t x'⦄, x.Leads t x' → ∀ exchange ∈ t, p exchange.1

variable {p : Request → Prop}

theorem asks_done (result : α) : (done result).Asks p := by
  intro t x' h
  rw [(leads_done_iff.1 h).1]
  exact fun _ hmem => absurd hmem List.not_mem_nil

theorem asks_ask {request : Request} {next : request.Answer → Work α} (hrequest : p request)
    (hnext : ∀ answer, (next answer).Asks p) : (ask request next).Asks p := by
  intro t x' h
  cases h with
  | refl => exact fun _ hmem => absurd hmem List.not_mem_nil
  | head h =>
    intro exchange hmem
    rcases List.mem_cons.1 hmem with rfl | hlater
    · exact hrequest
    · exact hnext _ h exchange hlater

theorem Asks.request {request : Request} {next : request.Answer → Work α}
    (h : (ask request next).Asks p) (answer : request.Answer) : p request :=
  h (.head (.refl (next answer))) _ List.mem_cons_self

theorem Asks.next {request : Request} {next : request.Answer → Work α}
    (h : (ask request next).Asks p) (answer : request.Answer) : (next answer).Asks p :=
  fun _ _ hleads exchange hmem => h (.head hleads) exchange (List.mem_cons_of_mem _ hmem)

/-- What a work asks next is what it may ask. -/
theorem Asks.of_leads {request : Request} {next : request.Answer → Work α} (hx : x.Asks p)
    (h : x.Leads t (ask request next)) (answer : request.Answer) : p request :=
  hx (h.answered answer) _ (List.mem_append_right _ List.mem_cons_self)

/-- What is asked after a work may depend on its result. -/
theorem Asks.bind_of_leads (hx : x.Asks p)
    (hf : ∀ ⦃t result⦄, x.Leads t (done result) → (f result).Asks p) : (x.bind f).Asks p := by
  intro t y h exchange hmem
  rcases leads_bind h with ⟨_, _, hfirst, -⟩ | ⟨t₁, t₂, result, rfl, hfirst, hsecond⟩
  · exact hx hfirst exchange hmem
  · rcases List.mem_append.1 hmem with hmem | hmem
    · exact hx hfirst exchange hmem
    · exact hf hfirst hsecond exchange hmem

theorem Asks.bind (hx : x.Asks p) (hf : ∀ result, (f result).Asks p) : (x.bind f).Asks p :=
  hx.bind_of_leads fun _ result _ => hf result

theorem Asks.mono {q : Request → Prop} (hx : x.Asks p) (hpq : ∀ request, p request → q request) :
    x.Asks q := fun _ _ h exchange hmem => hpq _ (hx h exchange hmem)

/-- The result of a work when each request has one answer only. -/
def answeredBy (reply : (request : Request) → request.Answer) : Work α → α
  | done result => result
  | ask request next => (next (reply request)).answeredBy reply

theorem answeredBy_bind (reply : (request : Request) → request.Answer) (x : Work α)
    (f : α → Work β) : (x.bind f).answeredBy reply = (f (x.answeredBy reply)).answeredBy reply := by
  induction x with
  | done result => rfl
  | ask request next ih => exact ih (reply request)

/-- With one answer to each request, there is one result. -/
theorem Leads.eq_answeredBy {reply : (request : Request) → request.Answer} {result : α}
    (h : x.Leads t (done result)) (hreply : ∀ exchange ∈ t, exchange.2 = reply exchange.1) :
    result = x.answeredBy reply := by
  induction x generalizing t with
  | done first => exact Work.done.inj (leads_done_iff.1 h).2
  | ask request next ih =>
    cases h with
    | head h =>
      -- the first answer is the reply, so both go the same way
      obtain ⟨hfirst, hlater⟩ := List.forall_mem_cons.1 hreply
      simp only at hfirst
      subst hfirst
      exact ih _ h hlater

/-- One work after the other is performed so. -/
theorem perform_bind (host : Host σ) (x : Work α) (f : α → Work β) (s : Shared σ) :
    (x.bind f).perform host s = (f (x.perform host s).1).perform host (x.perform host s).2 := by
  induction x generalizing s with
  | done result => rfl
  | ask request next ih => exact ih _ _

/-- Performing a work leads to its result. -/
theorem exists_leads_perform (host : Host σ) (x : Work α) (s : Shared σ) :
    ∃ t, x.Leads t (done (x.perform host s).1) := by
  induction x generalizing s with
  | done result => exact ⟨[], .refl _⟩
  | ask request next ih =>
    obtain ⟨t, ht⟩ := ih (host.answer request s).1 (host.answer request s).2
    exact ⟨_ :: t, .head ht⟩

end Work

/-- A host that makes and writes everything, and takes calls for the paths that `accepts` says. -/
def Host.accepting (accepts : String → Bool) : Host Unit where
  makeDirs _ s := (.ok (), s)
  writeFile _ _ s := (.ok (), s)
  call path _ s :=
    (if accepts path then .ok () else .error (.foreign (.exception "refused" none)), s)

end CorpusForge
