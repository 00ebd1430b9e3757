import ChainRisk.Proofs.ExactReport
import ChainRisk.Proofs.Steps
import Mathlib.Algebra.GroupWithZero.Nat

namespace ChainRisk

namespace Script

section

variable (world : Script) (v : View) (known : SpenderTable) (owner a : Address)

inductive MetadataFails : Prop
  | unanswered (f : TokenField)
      (h : ∀ x, ¬ world.Answers v.timeout (.tokenField a f) (v.reads (.tokenField a f)) x)
  | unreadable (x : Json)
      (hx : world.Answers v.timeout (.tokenField a .decimals) (v.reads (.tokenField a .decimals)) x)
      (hn : ∀ n, x.toInt ≠ .ok n)

def LogsFail : Prop :=
  ∀ fromBlock logs, ¬ world.Answers v.timeout (.logs a fromBlock owner) (v.reads (.logs a)) logs

inductive AllowanceFails (spender : String) : Prop
  | rejected (h : Address.ofText? spender = none)
  | unanswered (s : Address) (hs : Address.ofText? spender = some s)
      (h : ∀ x, ¬ world.Answers v.timeout (.allowance a owner s) (v.reads (.allowance a s)) x)
  | unreadable (s : Address) (x : Json) (hs : Address.ofText? spender = some s)
      (hx : world.Answers v.timeout (.allowance a owner s) (v.reads (.allowance a s)) x)
      (hn : ∀ n, x.toInt ≠ .ok n)

end

variable {world : Script} {v : View} {known : SpenderTable} {owner a : Address}

theorem seen_eq_none_iff {q : Query} :
    world.seen v q = none ↔ ∀ x, ¬ world.Answers v.timeout q (v.reads q.subject) x := by
  simp only [Option.eq_none_iff_forall_ne_some, ne_eq, seen_eq_some_iff]

theorem toOption_toInt_eq_none_iff {x : Json} : x.toInt.toOption = none ↔ ∀ n, x.toInt ≠ .ok n := by
  cases x.toInt with
  | ok n => exact iff_of_false nofun fun h => h n rfl
  | error e => exact iff_of_true rfl nofun

theorem tokenMetadata?_eq_none_iff {t : String} : world.tokenMetadata? v t a = none ↔
    (∃ f, world.seen v (.tokenField a f) = none) ∨
      ∃ x : Json, world.seen v (.tokenField a .decimals) = some x ∧ x.toInt.toOption = none := by
  have hfields : (∃ f, world.seen v (.tokenField a f) = none) ↔ world.seen v (.tokenField a .symbol) = none ∨
      world.seen v (.tokenField a .name) = none ∨ world.seen v (.tokenField a .decimals) = none := by
    constructor
    · rintro ⟨f, h⟩
      cases f with
      | symbol => exact .inl h
      | name => exact .inr (.inl h)
      | decimals => exact .inr (.inr h)
    · rintro (h | h | h)
      · exact ⟨_, h⟩
      · exact ⟨_, h⟩
      · exact ⟨_, h⟩
  rw [hfields, tokenMetadata?]
  cases world.seen v (.tokenField a .symbol) with
  | none => simp
  | some symbol =>
    cases world.seen v (.tokenField a .name) with
    | none => simp
    | some name =>
      cases world.seen v (.tokenField a .decimals) with
      | none => simp
      | some x =>
        have hread : (∃ y : Json, some x = some y ∧ y.toInt.toOption = none) ↔
            (Json.toInt x).toOption = none := by simp
        rw [hread]
        cases hn : (Json.toInt x).toOption <;> simp [hn]

theorem metadataFails_iff {t : String} : world.MetadataFails v a ↔ world.tokenMetadata? v t a = none := by
  rw [tokenMetadata?_eq_none_iff]
  constructor
  · intro h
    cases h with
    | unanswered f h => exact .inl ⟨f, seen_eq_none_iff.2 h⟩
    | unreadable x hx hn => exact .inr ⟨x, seen_eq_some_iff.2 hx, toOption_toInt_eq_none_iff.2 hn⟩
  · rintro (⟨f, h⟩ | ⟨x, hx, hn⟩)
    · exact .unanswered f (seen_eq_none_iff.1 h)
    · exact .unreadable x (seen_eq_some_iff.1 hx) (toOption_toInt_eq_none_iff.1 hn)

theorem logsFail_iff : world.LogsFail v owner a ↔ world.tokenLogs v owner a = none := by
  rw [tokenLogs, seen_eq_none_iff]
  exact ⟨fun h => h (.int 0), fun h _ => h⟩

theorem allowanceFails_iff {s : String} :
    world.AllowanceFails v owner a s ↔ world.amount? v owner a s = none := by
  simp only [amount?, Option.bind_eq_bind, Option.bind_eq_none_iff]
  constructor
  · intro h b hb x hx
    cases h with
    | rejected h => cases hb.symm.trans h
    | unanswered s hs h =>
      cases hb.symm.trans hs
      exact (h x (seen_eq_some_iff.1 hx)).elim
    | unreadable s y hs hy hn =>
      cases hb.symm.trans hs
      cases hx.symm.trans (seen_eq_some_iff.2 hy)
      exact toOption_toInt_eq_none_iff.2 hn
  · intro h
    cases hb : Address.ofText? s with
    | none => exact .rejected hb
    | some b =>
      cases hx : world.seen v (.allowance a owner b) with
      | none => exact .unanswered b hb (seen_eq_none_iff.1 hx)
      | some x => exact .unreadable b x hb (seen_eq_some_iff.1 hx) (toOption_toInt_eq_none_iff.1 (h b hb x hx))

instance : Decidable (world.MetadataFails v a) :=
  decidable_of_iff (world.tokenMetadata? v a.text a |>.isNone) (by rw [Option.isNone_iff_eq_none, metadataFails_iff])

instance : Decidable (world.LogsFail v owner a) :=
  decidable_of_iff (world.tokenLogs v owner a |>.isNone) (by rw [Option.isNone_iff_eq_none, logsFail_iff])

instance (s : String) : Decidable (world.AllowanceFails v owner a s) :=
  decidable_of_iff (world.amount? v owner a s |>.isNone) (by rw [Option.isNone_iff_eq_none, allowanceFails_iff])

def degradedFields (world : Script) (v : View) (known : SpenderTable) (owner : Address) (tokens : List Address) :
    Nat :=
  tokens.countP (world.MetadataFails v) + tokens.countP (world.LogsFail v owner) +
    (tokens.map fun a => (world.spendersOf v known owner a).countP (world.AllowanceFails v owner a)).sum

theorem degradedFields_cons (tokens : List Address) : world.degradedFields v known owner (a :: tokens) =
    world.degradedFields v known owner [a] + world.degradedFields v known owner tokens := by
  simp only [degradedFields, List.countP_cons, List.map_cons, List.sum_cons, List.countP_nil, List.map_nil,
    List.sum_nil]
  omega

end Script

structure Tally where
  view : View
  degraded : Nat

def Desk.tally (d : Desk) : Tally := ⟨d.view, d.statistics.degraded⟩

def Tally.lose (n : Nat) (l : Tally) : Tally := { l with degraded := l.degraded + n }

@[simp] theorem Tally.lose_lose (m n : Nat) (l : Tally) : (l.lose m).lose n = l.lose (m + n) := by
  simp only [lose, Nat.add_assoc]

def Desk.SameDegraded (d d' : Desk) : Prop := d'.statistics.degraded = d.statistics.degraded

instance : IsPreorder Desk Desk.SameDegraded := inferInstanceAs (IsPreorder Desk (Desk.Keeps (·.degraded)))

theorem Desk.readSteps_sameDegraded : Desk.ReadSteps SameDegraded := readSteps_keeps (·.degraded)

namespace Work

open Activity

variable {α : Type} {world : Script} {survey : Survey} {l : Tally} {v : View} {owner a : Address} {t : String}

abbrev Tallies (x : Work α) (l : Tally) (Q : Attempt α → Tally → Prop) : Prop :=
  Activity.Yields Desk.tally x l Q

theorem tallies_of_reads {x : Work α} {Q : Attempt α → Tally → Prop} (hx : Respects Desk.SameDegraded x)
    (h : Yields x l.view fun r u => Q r ⟨u, l.degraded⟩) : Tallies x l Q := by
  refine yields_of_run fun m d hd => ?_
  subst hd
  have hq := h.run m (s := d) rfl
  rwa [← (show _ = d.tally.degraded from hx ⟨m, none⟩ d)] at hq

theorem tallies_orStandIn {standIn : α} {r : Attempt α} {Q : Attempt α → Tally → Prop}
    (h : Q (.ok (r.toOption.getD standIn)) (l.lose (if r.toOption = none then 1 else 0))) :
    Tallies (orStandIn standIn r) l Q := by
  cases r with
  | ok x => exact yields_pure h
  | error e =>
    apply yields_bind
    exact yields_update (fun d hd => congrArg (Tally.lose 1) hd) (yields_pure h)

theorem tallies_seen {operation : String} {q : Query} {Q : Attempt q.Answer → Tally → Prop}
    (hv : View.SameOn (· = q.subject) v l.view)
    (h : ∀ r : Attempt q.Answer, r.toOption = world.seen v q →
      (∀ e, r = .error e → e.isIn .network = true) → Q r ⟨l.view.touch q.subject, l.degraded⟩) :
    Tallies (rpc world operation q) l Q :=
  tallies_of_reads (respects_rpc Desk.readSteps_sameDegraded operation q) (yields_seen hv h)

theorem tallies_discovered {fromBlock : Json} {Q : Attempt (List String) → Tally → Prop}
    (ht : Address.ofText? t = some a) (hv : View.SameOn (· = .logs a) v l.view)
    (h : Q (world.tokenSpenders v survey.spenders owner a)
      ⟨l.view.touch (.logs a), l.degraded + if world.LogsFail v owner a then 1 else 0⟩) :
    Tallies (discovered world survey t owner.text fromBlock) l Q := by
  refine yields_discovered_through ht (fun _ hP => tallies_seen hv hP) (fun _ hd => congrArg (Tally.lose 1) hd) ?_
  simp only [Script.logsFail_iff] at h
  split
  · next hlogs => rwa [if_pos hlogs] at h
  · next hlogs => rwa [if_neg hlogs] at h

def Classified (known : SpenderTable) (t : String) (spenders : List String) (x : Allowance) : Prop :=
  ∃ s ∈ spenders, x.token = .str t ∧ x.spender = .str s ∧ x.info = known.classify s

theorem Classified.mono {known : SpenderTable} {spenders spenders' : List String} {x : Allowance}
    (h : Classified known t spenders x) (hsub : spenders ⊆ spenders') : Classified known t spenders' x := by
  obtain ⟨s, hs, h⟩ := h
  exact ⟨s, hsub hs, h⟩

theorem tallies_granted {m : TokenMetadata} {answers : List (String × Attempt Int)} :
    Tallies (granted survey t m answers) l fun r u => ∀ given, r = .ok given →
      u = l.lose (answers.countP fun p => p.2.toOption = none) ∧
        ∀ x ∈ given, Classified survey.spenders t (answers.map (·.1)) x := by
  induction answers generalizing l with
  | nil =>
    apply yields_pure
    rintro _ ⟨⟩
    exact ⟨rfl, nofun⟩
  | cons answer rest ih =>
    obtain ⟨spender, answer⟩ := answer
    have hcount : (l.lose (if answer.toOption = none then 1 else 0)).lose
        (rest.countP fun p => p.2.toOption = none) =
          l.lose (((spender, answer) :: rest).countP fun p => p.2.toOption = none) := by
      simp only [Tally.lose_lose, List.countP_cons, decide_eq_true_eq, Nat.add_comm]
    have hrest {found : List Allowance} (hfound : ∀ x ∈ found, Classified survey.spenders t [spender] x) :
        Tallies (granted survey t m rest >>= fun later => Activity.pure (found ++ later))
          (l.lose (if answer.toOption = none then 1 else 0)) fun r u => ∀ given, r = .ok given →
            u = l.lose (((spender, answer) :: rest).countP fun p => p.2.toOption = none) ∧
              ∀ x ∈ given, Classified survey.spenders t (spender :: rest.map (·.1)) x := by
      refine yields_bind (yields_mono ih fun r u hr => ?_)
      cases r with
      | error e => exact nofun
      | ok later =>
        obtain ⟨rfl, hlater⟩ := hr later rfl
        apply yields_pure
        rintro _ ⟨⟩
        refine ⟨hcount, fun x hx => ?_⟩
        rcases List.mem_append.1 hx with hx | hx
        · exact (hfound x hx).mono (by simp)
        · exact (hlater x hx).mono (by simp)
    apply yields_bind
    apply tallies_orStandIn
    change Activity.Yields _ (if _ ≤ 0 then _ else _) _ _
    split
    · exact yields_bind (yields_pure (hrest nofun))
    · apply yields_bind
      apply yields_ofAttempt
      cases hmade : Allowance.make (.str t) (.str spender) (Numeral.ofInt (answer.toOption.getD 0)) m.symbol m.name
          (.int m.decimals) (survey.spenders.classify spender) with
      | error e => exact nofun
      | ok made =>
        refine hrest fun x hx => ?_
        obtain ⟨-, -, rfl⟩ := Attempt.map_eq_ok_iff.1 hmade
        rw [List.mem_singleton.1 hx]
        exact ⟨spender, List.mem_singleton_self spender, rfl, rfl, rfl⟩

structure Tally.Through (world : Script) (v : View) (known : SpenderTable) (owner a : Address) (t : String)
    (given : List Allowance) (l u : Tally) : Prop where
  address : Address.ofText? t = some a
  degraded : u.degraded = l.degraded + world.degradedFields v known owner [a]
  others : View.SameOn (·.token? ≠ some a) l.view u.view
  entries : ∀ x ∈ given, Classified known t (world.spendersOf v known owner a) x

theorem countP_zip_of_amounts {found : List String} {amounts : List (Attempt Int)}
    (h : amounts.map (·.toOption) = found.map (world.amount? v owner a)) :
    ((found.zip amounts).countP fun p => p.2.toOption = none) =
      found.countP (world.AllowanceFails v owner a) := by
  induction found generalizing amounts with
  | nil => rfl
  | cons s found ih =>
    cases amounts with
    | nil => cases h
    | cons r amounts =>
      rw [List.map_cons, List.map_cons, List.cons.injEq] at h
      rw [List.zip_cons_cons, List.countP_cons, List.countP_cons, ih h.2]
      simp only [h.1, Script.allowanceFails_iff]

theorem tallies_ofToken {fromBlock : Json} (hk : Address.Apart survey.spenders.addresses)
    (hv : ∀ a, Address.ofText? t = some a → View.SameOn (·.token? = some a) v l.view) :
    Tallies (ofToken world survey owner.text fromBlock t) l fun r u => ∀ given, r = .ok given →
      ∃ a, Tally.Through world v survey.spenders owner a t given l u := by
  cases ht : Address.ofText? t with
  | none =>
    exact yields_badToken ht (fun _ hd => congrArg (Tally.lose 1) hd) nofun
  | some a =>
    have hva := hv a ht
    apply yields_bind
    apply yields_both
    apply tallies_of_reads (respects_metadata Desk.readSteps_sameDegraded _)
    apply yields_metadata ht hva
    intro m u₁ hu₁ hm
    have hread {x : Subject} (hx : x.token? = some a) (hne : ∀ f, x ≠ .tokenField a f) :
        View.SameOn (· = x) v u₁ :=
      (hva.mono (by rintro y rfl; exact hx)).trans (hu₁.mono (by rintro y rfl; exact hne))
    apply tallies_discovered ht (hread rfl fun f hf => by cases hf)
    apply yields_bind
    apply tallies_orStandIn
    apply yields_bind
    apply yields_ofAttempt
    have hothers : View.SameOn (·.token? ≠ some a) l.view (u₁.touch (.logs a)) :=
      (hu₁.mono (by rintro x hx f rfl; exact hx rfl)).touch fun hx => hx rfl
    have hallowance (b : Address) : View.SameOn (· = .allowance a b) v (u₁.touch (.logs a)) :=
      (hread rfl fun f hf => by cases hf).touch (by intro hx; cases hx)
    cases hs : world.tokenSpenders v survey.spenders owner a with
    | error e => exact nofun
    | ok found =>
      have hfound : found = world.spendersOf v survey.spenders owner a := by
        obtain ⟨b, hb, hlogs⟩ := Script.sound_of_tokenSpenders ht hs
        cases ht.symm.trans hb
        exact Except.ok.inj (hs.symm.trans (Script.tokenSpenders_eq_ok hlogs))
      have hreads : ∀ x ∈ found.map fun s => allowance world (.str t) (.str owner.text) (.str s),
          Respects Desk.SameDegraded x := by
        intro x hx
        obtain ⟨s, -, rfl⟩ := List.mem_map.1 hx
        exact respects_allowance Desk.readSteps_sameDegraded _ _ _
      apply yields_bind
      apply tallies_of_reads (respects_each hreads)
      apply yields_each
      apply yieldsEach_allowance ht (apart_tokenSpenders hk hs) (fun s _ b _ => hallowance b)
      intro amounts u₂ hu₂ hamounts
      refine yields_mono tallies_granted fun r u hr given hgiven => ?_
      obtain ⟨rfl, hentries⟩ := hr given hgiven
      have hdegraded : world.degradedFields v survey.spenders owner [a] =
          (if m.toOption = none then 1 else 0) + (if world.LogsFail v owner a then 1 else 0) +
            (found.zip amounts).countP fun p => p.2.toOption = none := by
        rw [countP_zip_of_amounts hamounts, hm, hfound]
        simp only [Script.degradedFields, List.countP_singleton, List.map_singleton, List.sum_singleton,
          decide_eq_true_eq, Script.metadataFails_iff (t := t)]
      refine ⟨a, ht, ?_, hothers.trans (hu₂.mono ?_), fun x hx => (hentries x hx).mono ?_⟩
      · rw [hdegraded]
        simp only [Tally.lose]
        omega
      · rintro x hx b rfl
        exact hx rfl
      · rw [hfound]
        intro s hs
        obtain ⟨p, hp, rfl⟩ := List.mem_map.1 hs
        exact (List.of_mem_zip hp).1

end Work

end ChainRisk
