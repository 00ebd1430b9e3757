import ChainRisk.Proofs.AmountText
import ChainRisk.Proofs.Answers
import ChainRisk.Proofs.Candidates

namespace ChainRisk

def Subject.token? : Subject → Option Address
  | logs t => some t
  | tokenField t _ => some t
  | allowance t _ => some t
  | _ => none

def Entry.told? {α : Type} (limit : Duration) (e : Entry α) : Option α :=
  if limit.outlastedBy e.delay then none
  else
    match e.reply with
    | .value x => some x
    | .fault _ => none

namespace Script

variable (world : Script)

def seen (v : View) (q : Query) : Option q.Answer :=
  (world.entry q (v.reads q.subject)).told? v.timeout

variable {world} {v u : View}

theorem seen_eq_some_iff {q : Query} {x : q.Answer} :
    world.seen v q = some x ↔ world.Answers v.timeout q (v.reads q.subject) x := by
  unfold seen Entry.told? Answers
  cases v.timeout.outlastedBy (world.entry q (v.reads q.subject)).delay with
  | true => simp
  | false => cases (world.entry q (v.reads q.subject)).reply <;> simp

theorem answer_toOption (operation : String) (q : Query) :
    (world.answer v.timeout operation q (v.reads q.subject)).toOption = world.seen v q := by
  unfold seen Entry.told? answer
  cases v.timeout.outlastedBy (world.entry q (v.reads q.subject)).delay with
  | true => rfl
  | false => cases (world.entry q (v.reads q.subject)).reply <;> rfl

theorem seen_congr {p : Subject → Prop} (h : View.SameOn p v u) {q : Query} (hq : p q.subject) :
    world.seen u q = world.seen v q := by
  rw [seen, seen, h.timeout, h.reads _ hq]

section

variable (world : Script) (v : View) (known : SpenderTable) (owner : Address) (t : String) (a : Address)

def tokenMetadata? : Option TokenMetadata := do
  let symbol ← world.seen v (.tokenField a .symbol)
  let name ← world.seen v (.tokenField a .name)
  let decimals ← world.seen v (.tokenField a .decimals)
  let n ← decimals.toInt.toOption
  pure ⟨.str t, symbol, name, n⟩

def tokenMetadata : TokenMetadata := (world.tokenMetadata? v t a).getD (.unknown (.str t))

def tokenLogs : Option (Option (List Log)) := world.seen v (.logs a (.int 0) owner)

def tokenSpenders : Attempt (List String) :=
  match world.tokenLogs v owner a with
  | some logs => (Work.spendersOf logs).map (·.map Address.text)
  | none => .ok known.addresses

def amountOf (spender : String) : Int :=
  (do
    let s ← Address.ofText? spender
    let x ← world.seen v (.allowance a owner s)
    x.toInt.toOption : Option Int).getD 0

def amount? (spender : String) : Option Int := do
  let s ← Address.ofText? spender
  let x ← world.seen v (.allowance a owner s)
  x.toInt.toOption

end

def grantOf (known : SpenderTable) (t : String) (m : TokenMetadata) (spender : String) (n : Int) :
    Option Allowance :=
  if 0 < n then
    some ⟨.str t, .str spender, Numeral.ofInt n, m.symbol, m.name, .int m.decimals, known.classify spender⟩
  else none

section

variable (world : Script) (v : View) (known : SpenderTable) (owner : Address)

def grantsOf (t : String) (a : Address) (found : List String) : List Allowance :=
  found.filterMap fun s => grantOf known t (world.tokenMetadata v t a) s (world.amountOf v owner a s)

def tokenResult (t : String) : Attempt (List Allowance) := do
  let a ← Address.require (.str t)
  let found ← world.tokenSpenders v known owner a
  pure (world.grantsOf v known owner t a found)

/-- Amounts of allowances can be written: those of the chain are words of 32 bytes. -/
def ShortAmounts : Prop :=
  ∀ t s, ∀ e ∈ world.allowance t s, ∀ x, e.reply = .value x → ∀ n, x.toInt = .ok n →
    n < 10 ^ Numeral.digitLimit

end

theorem tokenResult_of_ofText? {known : SpenderTable} {owner a : Address} {t : String}
    (ht : Address.ofText? t = some a) : world.tokenResult v known owner t =
      (world.tokenSpenders v known owner a).map (world.grantsOf v known owner t a) := by
  rw [tokenResult, Address.require_of_ofText? ht]
  rfl

theorem amountOf_eq (owner a : Address) (s : String) :
    world.amountOf v owner a s = (world.amount? v owner a s).getD 0 := rfl

theorem amountOf_lt (hw : world.ShortAmounts) (owner a : Address) (s : String) :
    world.amountOf v owner a s < 10 ^ Numeral.digitLimit := by
  have hzero : (0 : Int) < 10 ^ Numeral.digitLimit := Int.pow_pos (by decide)
  rw [amountOf]
  cases hb : Address.ofText? s with
  | none => exact hzero
  | some b =>
    rw [Option.bind_eq_bind, Option.bind_some]
    cases hx : world.seen v (.allowance a owner b) with
    | none => exact hzero
    | some x =>
      rw [Option.bind_eq_bind, Option.bind_some]
      cases hn : x.toInt with
      | error e => exact hzero
      | ok n =>
        have hreply := (seen_eq_some_iff.1 hx).2
        change (Entry.pick (Json.int 0) (world.allowance a b) _).reply = _ at hreply
        rcases Entry.pick_mem (.int 0) (world.allowance a b)
            (v.reads (Query.allowance a owner b).subject) with he | he
        · exact hw a b _ he x hreply n hn
        · rw [he] at hreply
          cases hreply
          cases hn
          exact hzero

end Script

namespace Work

open Activity

variable {world : Script} {survey : Survey} {v u : View} {owner a : Address} {t : String}

theorem yields_seen {operation : String} {q : Query} {Q : Attempt q.Answer → View → Prop}
    (hu : View.SameOn (· = q.subject) v u)
    (h : ∀ r : Attempt q.Answer, r.toOption = world.seen v q →
      (∀ e, r = .error e → e.isIn .network = true) → Q r (u.touch q.subject)) :
    Yields (rpc world operation q) u Q :=
  yields_rpc (h _ ((Script.answer_toOption operation q).trans (Script.seen_congr hu rfl))
    fun _ => Script.isIn_network_of_answer)

theorem yields_metadata {Q : Attempt TokenMetadata → View → Prop} (ht : Address.ofText? t = some a)
    (hu : View.SameOn (·.token? = some a) v u)
    (h : ∀ r u', View.SameOn (fun x => ∀ f, x ≠ .tokenField a f) u u' →
      r.toOption = world.tokenMetadata? v t a → Q r u') :
    Yields (metadata world (.str t)) u Q := by
  have hsymbol : View.SameOn (· = .tokenField a .symbol) v u := hu.mono (by rintro x rfl; rfl)
  have hname : View.SameOn (· = .tokenField a .name) v (u.touch (.tokenField a .symbol)) :=
    (hu.mono (by rintro x rfl; rfl)).touch (by intro hx; cases hx)
  have hdecimals : View.SameOn (· = .tokenField a .decimals) v
      ((u.touch (.tokenField a .symbol)).touch (.tokenField a .name)) :=
    ((hu.mono (by rintro x rfl; rfl)).touch (by intro hx; cases hx)).touch (by intro hx; cases hx)
  have hu' : View.SameOn (fun x => ∀ f, x ≠ .tokenField a f) u
      (((u.touch (.tokenField a .symbol)).touch (.tokenField a .name)).touch (.tokenField a .decimals)) :=
    (((View.SameOn.refl u).touch fun hx => hx _ rfl).touch fun hx => hx _ rfl).touch fun hx => hx _ rfl
  apply yields_bind
  apply yields_address ht
  apply yields_bind
  apply yields_all
  refine yields_seen hsymbol ?_
  intro symbol hs _
  refine yields_seen hname ?_
  intro name hn _
  refine yields_seen hdecimals ?_
  intro decimals hd _ r hr
  have hm : world.tokenMetadata? v t a = (do
      let symbol ← symbol.toOption
      let name ← name.toOption
      let decimals ← decimals.toOption
      let n ← decimals.toInt.toOption
      pure ⟨.str t, symbol, name, n⟩) := by rw [hs, hn, hd]; rfl
  cases r with
  | error e =>
    refine h (.error e) _ hu' (Eq.trans ?_ hm.symm)
    have hmem := hr.mem
    simp only [List.mem_cons, List.not_mem_nil, or_false] at hmem
    rcases hmem with rfl | rfl | rfl
    · rfl
    · cases symbol <;> rfl
    · cases symbol <;> cases name <;> rfl
  | ok fields =>
    have heq := hr.eq_map
    match fields, heq with
    | [x, y, z], heq =>
      simp only [List.map_cons, List.map_nil, List.cons.injEq, and_true] at heq
      obtain ⟨rfl, rfl, rfl⟩ := heq
      apply yields_bind
      apply yields_ofAttempt
      cases hz : Json.toInt z with
      | error e => exact h (.error e) _ hu' (by rw [hm]; simp [Except.toOption, hz])
      | ok n => exact yields_pure (h _ _ hu' (by rw [hm]; simp [Except.toOption, hz]))

theorem isIn_network_of_mapM_spenderOf {logs : List Log} {e : Failure}
    (h : logs.mapM spenderOf = .error e) : e.isIn .network = false := by
  induction logs with
  | nil => cases h
  | cons log logs ih =>
    rw [List.mapM_cons] at h
    cases log with
    | none =>
      cases h
      rfl
    | some topics =>
      cases hr : logs.mapM spenderOf with
      | error e' =>
        rw [hr] at h
        cases h
        exact ih hr
      | ok found =>
        rw [hr] at h
        cases h

theorem isIn_network_of_spendersOf {logs : Option (List Log)} {e : Failure}
    (h : spendersOf logs = .error e) : e.isIn .network = false := by
  cases logs with
  | none =>
    cases h
    rfl
  | some logs =>
    rw [spendersOf] at h
    cases hr : logs.mapM spenderOf with
    | error e' =>
      rw [hr] at h
      cases h
      exact isIn_network_of_mapM_spenderOf hr
    | ok found =>
      rw [hr] at h
      cases h

section

variable {ν : Type} {π : Desk → ν} {x y z : ν}

theorem yields_discovered_through {fromBlock : Json} {Q : Attempt (List String) → ν → Prop}
    (ht : Address.ofText? t = some a)
    (hask : ∀ P : Attempt (Option (List Log)) → ν → Prop, (∀ r, r.toOption = world.tokenLogs v owner a →
      (∀ e, r = .error e → e.isIn .network = true) → P r y) →
        Activity.Yields π (rpc world (a.text ++ " Approval logs") (.logs a fromBlock owner)) x P)
    (hcount : ∀ d, π d = y → π d.countDegraded = z)
    (h : Q (world.tokenSpenders v survey.spenders owner a)
      (if world.tokenLogs v owner a = none then z else y)) :
    Activity.Yields π (discovered world survey t owner.text fromBlock) x Q := by
  apply yields_bind
  apply yields_attempt
  apply yields_bind
  apply yields_address ht
  apply yields_bind
  apply yields_address (Address.ofText?_text owner)
  apply yields_bind
  apply hask
  intro r hr hnet
  rw [Script.tokenSpenders, ← hr] at h
  cases r with
  | error e =>
    change Activity.Yields _ (if e.isIn .network = true then _ else _) _ _
    rw [if_pos (hnet e rfl)]
    exact yields_bind (yields_update hcount (yields_pure h))
  | ok logs =>
    apply yields_ofAttempt
    change Q ((spendersOf logs).map _) y at h
    cases hs : spendersOf logs with
    | error e =>
      rw [hs] at h
      change Activity.Yields _ (if e.isIn .network = true then _ else _) _ _
      rw [if_neg (by rw [isIn_network_of_spendersOf hs]; exact Bool.false_ne_true)]
      exact yields_fail h
    | ok found =>
      rw [hs] at h
      exact yields_pure h

theorem yields_badToken {owner : String} {fromBlock : Json} {Q : Attempt (List Allowance) → ν → Prop}
    (ht : Address.ofText? t = none) (hcount : ∀ d, π d = x → π d.countDegraded = y)
    (h : Q (.error (.invalidAddress (.str t))) y) :
    Activity.Yields π (ofToken world survey owner fromBlock t) x Q := by
  apply yields_bind
  apply yields_both
  apply yields_badAddress ht
  apply yields_bind
  apply yields_attempt
  apply yields_badAddress ht
  -- a bad address is no failure of the network, so the known spenders do not stand in
  apply yields_fail
  apply yields_bind
  apply yields_bind
  refine yields_update hcount (yields_pure ?_)
  apply yields_bind
  exact yields_fail h

end

theorem yields_discovered {fromBlock : Json} {Q : Attempt (List String) → View → Prop}
    (ht : Address.ofText? t = some a) (hu : View.SameOn (· = .logs a) v u)
    (h : Q (world.tokenSpenders v survey.spenders owner a) (u.touch (.logs a))) :
    Yields (discovered world survey t owner.text fromBlock) u Q :=
  yields_discovered_through ht (fun _ hP => yields_seen hu hP) (fun _ hd => hd) (by rwa [ite_self])

theorem yields_allowance {s : String} {Q : Attempt Int → View → Prop} (ht : Address.ofText? t = some a)
    (hu : ∀ b, Address.ofText? s = some b → View.SameOn (· = .allowance a b) v u)
    (h : ∀ r u', View.SameOn (fun x => ∀ b, Address.ofText? s = some b → x ≠ .allowance a b) u u' →
      r.toOption = world.amount? v owner a s → Q r u') :
    Yields (allowance world (.str t) (.str owner.text) (.str s)) u Q := by
  apply yields_bind
  apply yields_address ht
  apply yields_bind
  apply yields_address (Address.ofText?_text owner)
  apply yields_bind
  cases hb : Address.ofText? s with
  | none =>
    rw [address, Address.require, hb]
    exact yields_fail (h _ u (.refl u) (by rw [Script.amount?, hb]; rfl))
  | some b =>
    have hu' : View.SameOn (fun x => ∀ b, Address.ofText? s = some b → x ≠ .allowance a b) u
        (u.touch (.allowance a b)) := (View.SameOn.refl u).touch fun hx => hx b hb rfl
    apply yields_address hb
    apply yields_bind
    refine yields_seen (hu b hb) ?_
    intro r hr _
    have ha : world.amount? v owner a s = r.toOption.bind fun x => x.toInt.toOption := by
      rw [Script.amount?, hb, hr]
      rfl
    cases r with
    | error e => exact h (.error e) _ hu' ha.symm
    | ok x => exact yields_ofAttempt (h _ _ hu' ha.symm)

theorem yieldsEach_allowance {found : List String} {Q : List (Attempt Int) → View → Prop}
    (ht : Address.ofText? t = some a) (hapart : Address.Apart found)
    (hu : ∀ s ∈ found, ∀ b, Address.ofText? s = some b → View.SameOn (· = .allowance a b) v u)
    (h : ∀ rs u', View.SameOn (fun x => ∀ b, x ≠ .allowance a b) u u' →
      rs.map (·.toOption) = found.map (world.amount? v owner a) → Q rs u') :
    YieldsEach Desk.view
      (found.map fun s => allowance world (.str t) (.str owner.text) (.str s)) u Q := by
  -- along the list the view moves on, but not at the spenders that are still to come
  induction found generalizing u Q with
  | nil => exact h [] u (.refl u) rfl
  | cons s found ih =>
    obtain ⟨hne, hapart⟩ := List.pairwise_cons.1 hapart
    apply yields_allowance ht (hu s (by simp))
    intro r u₁ hu₁ hr
    refine ih hapart (fun s' hs' b hb => (hu s' (by simp [hs']) b hb).trans (hu₁.mono ?_)) ?_
    · rintro x rfl b' hb' heq
      cases heq
      exact hne s' hs' b hb' hb
    · intro rs u₂ hu₂ hrs
      refine h (r :: rs) u₂ ((hu₁.mono fun x hx b _ => hx b).trans hu₂) ?_
      rw [List.map_cons, List.map_cons, hr, hrs]

theorem yields_granted {m : TokenMetadata} {found : List String} {amounts : List (Attempt Int)}
    {amount : String → Int} {Q : Attempt (List Allowance) → View → Prop}
    (hamounts : amounts.map (·.toOption.getD 0) = found.map amount)
    (hshort : ∀ s, amount s < 10 ^ Numeral.digitLimit)
    (h : Q (.ok (found.filterMap fun s => Script.grantOf survey.spenders t m s (amount s))) u) :
    Yields (granted survey t m (found.zip amounts)) u Q := by
  induction found generalizing amounts Q with
  | nil => exact yields_pure h
  | cons s found ih =>
    cases amounts with
    | nil => cases hamounts
    | cons r amounts =>
      rw [List.map_cons, List.map_cons, List.cons.injEq] at hamounts
      apply yields_bind
      apply yields_orStandIn
      rw [hamounts.1]
      change Activity.Yields _ (if amount s ≤ 0 then _ else _) _ _
      by_cases hpos : 0 < amount s
      · rw [if_neg (Int.not_le.2 hpos), Allowance.make_ofInt hpos (hshort s)]
        apply yields_bind
        apply yields_pure
        refine yields_bind (ih hamounts.2 (yields_pure ?_))
        rw [List.filterMap_cons, Script.grantOf, if_pos hpos] at h
        exact h
      · rw [if_pos (Int.not_lt.1 hpos)]
        apply yields_bind
        apply yields_pure
        refine yields_bind (ih hamounts.2 (yields_pure ?_))
        rw [List.filterMap_cons, Script.grantOf, if_neg hpos] at h
        exact h

theorem apart_tokenSpenders {known : SpenderTable} {found : List String} (hk : Address.Apart known.addresses)
    (h : world.tokenSpenders v known owner a = .ok found) : Address.Apart found := by
  rw [Script.tokenSpenders] at h
  split at h
  · next logs _ =>
    cases logs with
    | none => cases h
    | some logs =>
      obtain ⟨as, has, rfl⟩ := Attempt.map_eq_ok_iff.1 h
      obtain ⟨spenders, -, rfl⟩ := Attempt.map_eq_ok_iff.1 has
      exact Address.apart_map_text (nodup_eraseDups _)
  · cases h
    exact hk

theorem yields_ofToken (hw : world.ShortAmounts) (hk : Address.Apart survey.spenders.addresses)
    {fromBlock : Json} {Q : Attempt (List Allowance) → View → Prop}
    (hu : ∀ a, Address.ofText? t = some a → View.SameOn (·.token? = some a) v u)
    (h : ∀ u', View.SameOn (fun x => ∀ a, Address.ofText? t = some a → x.token? ≠ some a) u u' →
      Q (world.tokenResult v survey.spenders owner t) u') :
    Yields (ofToken world survey owner.text fromBlock t) u Q := by
  cases ht : Address.ofText? t with
  | none =>
    have hr : Address.require (.str t) = .error (.invalidAddress (.str t)) := by rw [Address.require, ht]
    have hq := h u (.refl u)
    rw [Script.tokenResult, hr] at hq
    exact yields_badToken ht (fun _ hd => hd) hq
  | some a =>
    have hv := hu a ht
    apply yields_bind
    apply yields_both
    apply yields_metadata ht hv
    intro m u₁ hu₁ hm
    have hread {x : Subject} (hx : x.token? = some a) (hne : ∀ f, x ≠ .tokenField a f) :
        View.SameOn (· = x) v u₁ :=
      (hv.mono (by rintro y rfl; exact hx)).trans (hu₁.mono (by rintro y rfl; exact hne))
    apply yields_discovered ht (hread rfl fun f hf => by cases hf)
    apply yields_bind
    apply yields_orStandIn
    apply yields_bind
    apply yields_ofAttempt
    have hothers : View.SameOn (fun x => x.token? ≠ some a) u (u₁.touch (.logs a)) :=
      (hu₁.mono (by rintro x hx f rfl; exact hx rfl)).touch fun hx => hx rfl
    have hallowance (b : Address) : View.SameOn (· = .allowance a b) v (u₁.touch (.logs a)) :=
      (hread rfl fun f hf => by cases hf).touch (by intro hx; cases hx)
    rw [hm]
    rw [Script.tokenResult_of_ofText? ht] at h
    cases hs : world.tokenSpenders v survey.spenders owner a with
    | error e =>
      rw [hs] at h
      exact h _ (hothers.mono fun x hx => hx a ht)
    | ok found =>
      rw [hs] at h
      apply yields_bind
      apply yields_each
      apply yieldsEach_allowance ht (apart_tokenSpenders hk hs) (fun s _ b _ => hallowance b)
      intro amounts u₃ hu₃ hamounts
      have hamounts : amounts.map (·.toOption.getD 0) = found.map (world.amountOf v owner a) := by
        rw [funext (Script.amountOf_eq owner a)]
        simpa only [List.map_map, Function.comp_def] using congrArg (List.map (·.getD 0)) hamounts
      refine yields_granted hamounts (Script.amountOf_lt hw owner a) (h _ ?_)
      refine (hothers.mono fun x hx => hx a ht).trans (hu₃.mono ?_)
      rintro x hx b rfl
      exact hx a ht rfl

end Work

end ChainRisk
