import ChainRisk.Proofs.AddressWords
import ChainRisk.Proofs.Evidence
import ChainRisk.Proofs.ReadRuns
import Mathlib.Data.List.Forall2

namespace ChainRisk

namespace Script

variable (world : Script) (v : View) (a : Address)

def held (earlier : List ProxySlot) (slot : ProxySlot) : Attempt (Option Bytes) :=
  (Work.slotNumber slot.position).bind fun n =>
    world.answer v.timeout "eth_getStorageAt" (.storage a n) (v.reads (.storage a n) + readsOf n earlier)

def amount (x : Option Bytes) : Nat := bigEndian (x.getD [])

def Silent (slots : List ProxySlot) : Prop :=
  ∀ earlier slot later, slots = earlier ++ slot :: later →
    ∃ x, world.held v a earlier slot = .ok x ∧ amount x = 0

variable {world v a}

theorem silent_nil : world.Silent v a [] := fun earlier slot later h => by simp at h

theorem silent_concat_iff {slots : List ProxySlot} {slot : ProxySlot} : world.Silent v a (slots ++ [slot]) ↔
    world.Silent v a slots ∧ ∃ x, world.held v a slots slot = .ok x ∧ amount x = 0 := by
  constructor
  · refine fun h => ⟨?_, h slots slot [] rfl⟩
    rintro earlier before later rfl
    exact h earlier before (later ++ [slot]) (by simp)
  · rintro ⟨hslots, hslot⟩ earlier last later hsplit
    rcases List.eq_nil_or_concat' later with rfl | ⟨later, final, rfl⟩
    · obtain ⟨rfl, hlast⟩ := List.append_inj' hsplit rfl
      cases hlast
      exact hslot
    · rw [← List.cons_append, ← List.append_assoc] at hsplit
      exact hslots earlier last later (List.append_inj' hsplit rfl).1

theorem held_of_number {earlier : List ProxySlot} {slot : ProxySlot} {n : Int}
    (hn : Work.slotNumber slot.position = .ok n) : world.held v a earlier slot =
      world.answer v.timeout "eth_getStorageAt" (.storage a n) (v.reads (.storage a n) + readsOf n earlier) := by
  rw [held, hn]
  rfl

theorem number_of_held {earlier : List ProxySlot} {slot : ProxySlot} {x : Option Bytes}
    (h : world.held v a earlier slot = .ok x) : ∃ n, Work.slotNumber slot.position = .ok n := by
  obtain ⟨n, hn, -⟩ := Attempt.bind_eq_ok_iff.1 h
  exact ⟨n, hn⟩

theorem wordAfter_eq (world : Script) (v : View) (a : Address) (earlier : List ProxySlot) (slot : ProxySlot) :
    world.wordAfter v a earlier slot = (world.held v a earlier slot).map Work.word := by
  rw [wordAfter, held]
  cases Work.slotNumber slot.position <;> rfl

theorem bigEndian_word (x : Option Bytes) : bigEndian (Work.word x) = amount x := bigEndian_leftpad 32 _

theorem word_eq_zeroWord_iff (hshort : world.ShortWords) {earlier : List ProxySlot} {slot : ProxySlot}
    {x : Option Bytes} (h : world.held v a earlier slot = .ok x) :
    Work.word x = Work.zeroWord ↔ amount x = 0 := by
  have hword : world.wordAfter v a earlier slot = .ok (Work.word x) := by
    rw [wordAfter_eq, h]
    rfl
  have hlength := length_of_wordAnswers hshort (wordAfter_eq_ok_iff.1 hword)
  rw [eq_zeroWord_iff hlength, ← bigEndian_eq_zero_iff, bigEndian_word]

end Script

namespace Address

theorem bigEndian_ofWord (x : Option Bytes) :
    bigEndian (ofWord (Work.word x)).bytes = Script.amount x % 2 ^ 160 := by
  rw [bytes_ofWord_eq_lowBytes, bigEndian_lowBytes, Script.bigEndian_word]

end Address

def Desk.ReadInOrder (a : Address) (slots : List ProxySlot) (d d' : Desk) : Prop :=
  ∃ calls, d'.trace.map (·.2) = calls.reverse ++ d.trace.map (·.2) ∧
    List.Forall₂ (fun slot call => ∃ n, Work.slotNumber slot.position = .ok n ∧
      call = .rpc d.client.url (.storage a n)) slots calls

structure Desk.Probed (a : Address) (slots : List ProxySlot) (d d' : Desk) : Prop where
  view : View.Probed a slots d.view d'.view
  network : d'.client.network = d.client.network
  calls : ReadInOrder a slots d d'

namespace Desk

variable {a : Address} {slots : List ProxySlot} {slot : ProxySlot} {d d' : Desk} {n : Int}

theorem probed_refl (a : Address) (d : Desk) : Probed a [] d d :=
  ⟨⟨rfl, fun _ => rfl⟩, rfl, [], rfl, .nil⟩

theorem Probed.add {α : Type} (h : Probed a slots d d') (hn : Work.slotNumber slot.position = .ok n) (t : Instant)
    (r : Attempt α) :
    Probed a (slots ++ [slot]) d ((d'.countRequest.call t (.rpc d'.client.url (.storage a n))).counted r) := by
  have hview : ((d'.countRequest.call t (.rpc d'.client.url (.storage a n))).counted r).view =
      d'.view.touch (.storage a n) :=
    (same_counted Desk.view (fun _ => rfl) r _).trans
      (view_call_of_subject (c := .rpc d'.client.url (.storage a n)) rfl t d'.countRequest)
  have hurl : d'.client.url = d.client.url := by rw [Client.url, Client.url, h.network]
  obtain ⟨calls, hcalls, heach⟩ := h.calls
  refine ⟨hview ▸ Work.probed_touch h.view hn, ?_, calls ++ [.rpc d.client.url (.storage a n)], ?_, ?_⟩
  · exact (congrArg View.network hview).trans h.network
  · rw [same_counted Desk.trace (fun _ => rfl), hurl]
    change Call.rpc d.client.url (.storage a n) :: d'.trace.map (·.2) = _
    rw [hcalls, List.reverse_append]
    rfl
  · exact List.rel_append heach (.cons ⟨n, hn, rfl⟩ .nil)

theorem Probed.answer_eq_held {world : Script} (h : Probed a slots d d') (hn : Work.slotNumber slot.position = .ok n) :
    world.answer d'.client.timeout "eth_getStorageAt" (.storage a n) (d'.trace.reads (.storage a n)) =
      world.held d.view a slots slot := by
  obtain ⟨htimeout, hreads⟩ := h.view
  rw [Script.held_of_number hn, ← hreads n, ← htimeout]
  rfl

end Desk

namespace Work

open Activity

variable {world : Script} {a : Address} {s : String} {slot : ProxySlot} {slots rest : List ProxySlot} {n : Int}
  {w : Window} {d d' : Desk} {x : Option Bytes} {e : Failure}

theorem storage_run (world : Script) (hs : Address.ofText? s = some a) (hn : slotNumber slot.position = .ok n)
    (w : Window) (d : Desk) :
    let read := rpc world "eth_getStorageAt" (.storage a n) w d
    let run := storage world (.str s) slot.position w d
    run.1.result = read.1.result.map word ∧ run.1.ends = read.1.ends ∧ run.2 = read.2 := by
  rw [storage, address, Address.require_of_ofText? hs, hn]
  simp only [ofAttempt, Bind.bind, Activity.bind, Activity.pure]
  cases (rpc world "eth_getStorageAt" (.storage a n) w d).1.result with
  | ok x => exact ⟨rfl, rfl, rfl⟩
  | error e => exact ⟨rfl, rfl, rfl⟩

theorem storage_unnumbered (world : Script) (hs : Address.ofText? s = some a) (he : slotNumber slot.position = .error e)
    (w : Window) (d : Desk) :
    let run := storage world (.str s) slot.position w d
    run.1.result = .error e ∧ run.1.ends = w.start ∧ run.2 = d := by
  rw [storage, address, Address.require_of_ofText? hs, he]
  exact ⟨rfl, rfl, rfl⟩

theorem start_le_storage (world : Script) (hs : Address.ofText? s = some a) (slot : ProxySlot) (w : Window)
    (d : Desk) : w.start ≤ (storage world (.str s) slot.position w d).1.ends := by
  cases hn : slotNumber slot.position with
  | ok n =>
    rw [(storage_run world hs hn w d).2.1]
    exact start_le_rpc world _ _ w d
  | error e =>
    rw [(storage_unnumbered world hs hn w d).2.1]

theorem storage_result (hs : Address.ofText? s = some a) (hp : Desk.Probed a slots d d')
    (hn : slotNumber slot.position = .ok n) :
    (storage world (.str s) slot.position w d').1.result = (world.held d.view a slots slot).map word := by
  rw [(storage_run world hs hn w d').1, (rpc_run world _ _ w d').1]
  exact congrArg (Except.map word) (hp.answer_eq_held hn)

theorem storage_probed (hs : Address.ofText? s = some a) (hp : Desk.Probed a slots d d')
    (hn : slotNumber slot.position = .ok n)
    (hreach : w.reaches (storage world (.str s) slot.position w d').1.ends = true) :
    Desk.Probed a (slots ++ [slot]) d (storage world (.str s) slot.position w d').2 := by
  obtain ⟨-, hends, hstate⟩ := storage_run world hs hn w d'
  rw [hends] at hreach
  rw [hstate, (rpc_run world _ _ w d').2.2 hreach]
  exact hp.add hn _ _

theorem delegation_cons (world : Script) (v : Json) (slot : ProxySlot) (rest : List ProxySlot) :
    delegation world v (slot :: rest) = storage world v slot.position >>= fun w =>
      if w = zeroWord then delegation world v rest else Activity.pure (some ⟨Address.ofWord w, slot.name⟩) := rfl

theorem delegation_of_zero (rest : List ProxySlot) {v : Json}
    (h : (storage world v slot.position w d).1.result = .ok zeroWord) :
    let read := storage world v slot.position w d
    let run := delegation world v (slot :: rest) w d
    let later := delegation world v rest ⟨read.1.ends, w.limit⟩ read.2
    run.1.result = later.1.result ∧ run.1.ends = later.1.ends ∧ run.2 = later.2 := by
  rw [delegation_cons, bind_of_ok h, if_pos rfl]
  exact ⟨rfl, rfl, rfl⟩

theorem delegation_of_word (rest : List ProxySlot) {v : Json} {u : Bytes}
    (h : (storage world v slot.position w d).1.result = .ok u) (hu : u ≠ zeroWord) :
    let read := storage world v slot.position w d
    let run := delegation world v (slot :: rest) w d
    run.1.result = .ok (some ⟨Address.ofWord u, slot.name⟩) ∧ run.1.ends = read.1.ends ∧ run.2 = read.2 := by
  rw [delegation_cons, bind_of_ok h, if_neg hu]
  exact ⟨rfl, rfl, rfl⟩

theorem delegation_of_failure (rest : List ProxySlot) {v : Json}
    (h : (storage world v slot.position w d).1.result = .error e) :
    let read := storage world v slot.position w d
    let run := delegation world v (slot :: rest) w d
    run.1.result = .error e ∧ run.1.ends = read.1.ends ∧ run.2 = read.2 := by
  rw [delegation_cons, bind_of_error h]
  exact ⟨rfl, rfl, rfl⟩

theorem start_le_delegation (world : Script) (hs : Address.ofText? s = some a) (slots : List ProxySlot) (w : Window)
    (d : Desk) : w.start ≤ (delegation world (.str s) slots w d).1.ends := by
  induction slots generalizing w d with
  | nil => exact le_refl w.start
  | cons slot rest ih =>
    have hread := start_le_storage world hs slot w d
    cases hr : (storage world (.str s) slot.position w d).1.result with
    | ok u =>
      by_cases hu : u = zeroWord
      · subst hu
        rw [(delegation_of_zero rest hr).2.1]
        exact le_trans hread (ih ⟨_, w.limit⟩ _)
      · rw [(delegation_of_word rest hr hu).2.1]
        exact hread
    | error e =>
      rw [(delegation_of_failure rest hr).2.1]
      exact hread

theorem delegation_of_silent (hshort : world.ShortWords) (hs : Address.ofText? s = some a)
    (hsilent : world.Silent d.view a slots)
    (hreach : w.reaches (delegation world (.str s) (slots ++ rest) w d).1.ends = true) :
    ∃ m d', Desk.Probed a slots d d' ∧
      let run := delegation world (.str s) (slots ++ rest) w d
      let later := delegation world (.str s) rest ⟨m, w.limit⟩ d'
      run.1.result = later.1.result ∧ run.1.ends = later.1.ends ∧ run.2 = later.2 := by
  -- from the last slot back, since what a slot is answered with depends on those before it
  induction slots using List.reverseRecOn generalizing rest with
  | nil => exact ⟨w.start, d, Desk.probed_refl a d, rfl, rfl, rfl⟩
  | append_singleton slots slot ih =>
    rw [List.append_assoc, List.singleton_append] at hreach ⊢
    obtain ⟨hbefore, x, hx, hzero⟩ := Script.silent_concat_iff.1 hsilent
    obtain ⟨m, d', hp, hresult, hends, hstate⟩ := ih hbefore hreach
    obtain ⟨n, hn⟩ := Script.number_of_held hx
    have hread : (storage world (.str s) slot.position ⟨m, w.limit⟩ d').1.result = .ok zeroWord := by
      rw [storage_result hs hp hn, hx, ← (Script.word_eq_zeroWord_iff hshort hx).2 hzero]
      rfl
    obtain ⟨hresult', hends', hstate'⟩ := delegation_of_zero rest hread
    have hover := start_le_delegation world hs rest
      ⟨(storage world (.str s) slot.position ⟨m, w.limit⟩ d').1.ends, w.limit⟩
      (storage world (.str s) slot.position ⟨m, w.limit⟩ d').2
    rw [hends, hends'] at hreach
    exact ⟨_, _, storage_probed hs hp hn (Window.reaches_of_le hover hreach), hresult.trans hresult',
      hends.trans hends', hstate.trans hstate'⟩

variable {earlier later : List ProxySlot}

theorem delegation_stops (hshort : world.ShortWords) (hs : Address.ofText? s = some a)
    (hsilent : world.Silent d.view a earlier)
    (hreach : w.reaches (delegation world (.str s) (earlier ++ slot :: later) w d).1.ends = true)
    (hn : slotNumber slot.position = .ok n) {r : Attempt (Option Delegation)}
    (hstop : ∀ m d', (storage world (.str s) slot.position ⟨m, w.limit⟩ d').1.result =
        (world.held d.view a earlier slot).map word →
      let read := storage world (.str s) slot.position ⟨m, w.limit⟩ d'
      let run := delegation world (.str s) (slot :: later) ⟨m, w.limit⟩ d'
      run.1.result = r ∧ run.1.ends = read.1.ends ∧ run.2 = read.2) :
    let run := delegation world (.str s) (earlier ++ slot :: later) w d
    Desk.ReadInOrder a (earlier ++ [slot]) d run.2 ∧ run.1.result = r := by
  obtain ⟨m, d', hp, hresult, hends, hstate⟩ := delegation_of_silent hshort hs hsilent hreach
  obtain ⟨hresult', hends', hstate'⟩ := hstop m d' (storage_result hs hp hn)
  rw [hends, hends'] at hreach
  have hcalls := (storage_probed (w := ⟨m, w.limit⟩) hs hp hn hreach).calls
  rw [← hstate', ← hstate] at hcalls
  exact ⟨hcalls, hresult.trans hresult'⟩

theorem delegation_hit (hshort : world.ShortWords) (hs : Address.ofText? s = some a)
    (hsilent : world.Silent d.view a earlier)
    (hreach : w.reaches (delegation world (.str s) (earlier ++ slot :: later) w d).1.ends = true)
    (hx : world.held d.view a earlier slot = .ok x) (hsome : Script.amount x ≠ 0) :
    let run := delegation world (.str s) (earlier ++ slot :: later) w d
    Desk.ReadInOrder a (earlier ++ [slot]) d run.2 ∧
      run.1.result = .ok (some ⟨Address.ofWord (word x), slot.name⟩) := by
  obtain ⟨n, hn⟩ := Script.number_of_held hx
  have hword : word x ≠ zeroWord := fun hzero => hsome ((Script.word_eq_zeroWord_iff hshort hx).1 hzero)
  refine delegation_stops hshort hs hsilent hreach hn fun m d' hread => ?_
  rw [hx] at hread
  exact delegation_of_word later hread hword

theorem delegation_unread (hshort : world.ShortWords) (hs : Address.ofText? s = some a)
    (hsilent : world.Silent d.view a earlier)
    (hreach : w.reaches (delegation world (.str s) (earlier ++ slot :: later) w d).1.ends = true)
    (hn : slotNumber slot.position = .ok n) (he : world.held d.view a earlier slot = .error e) :
    let run := delegation world (.str s) (earlier ++ slot :: later) w d
    Desk.ReadInOrder a (earlier ++ [slot]) d run.2 ∧ run.1.result = .error e := by
  refine delegation_stops hshort hs hsilent hreach hn fun m d' hread => ?_
  rw [he] at hread
  exact delegation_of_failure later hread

theorem delegation_unnumbered (hshort : world.ShortWords) (hs : Address.ofText? s = some a)
    (hsilent : world.Silent d.view a earlier)
    (hreach : w.reaches (delegation world (.str s) (earlier ++ slot :: later) w d).1.ends = true)
    (he : slotNumber slot.position = .error e) :
    let run := delegation world (.str s) (earlier ++ slot :: later) w d
    Desk.ReadInOrder a earlier d run.2 ∧ run.1.result = .error e := by
  obtain ⟨m, d', hp, hresult, -, hstate⟩ := delegation_of_silent hshort hs hsilent hreach
  obtain ⟨hread, -, hunread⟩ := storage_unnumbered world hs he ⟨m, w.limit⟩ d'
  obtain ⟨hresult', -, hstate'⟩ := delegation_of_failure later hread
  have hcalls := hp.calls
  rw [← hunread, ← hstate', ← hstate] at hcalls
  exact ⟨hcalls, hresult.trans hresult'⟩

theorem delegation_clear (hshort : world.ShortWords) (hs : Address.ofText? s = some a)
    (hsilent : world.Silent d.view a slots)
    (hreach : w.reaches (delegation world (.str s) slots w d).1.ends = true) :
    let run := delegation world (.str s) slots w d
    Desk.ReadInOrder a slots d run.2 ∧ run.1.result = .ok none := by
  rw [← List.append_nil slots] at hreach
  obtain ⟨m, d', hp, hresult, -, hstate⟩ := delegation_of_silent hshort hs hsilent hreach
  rw [List.append_nil] at hresult hstate
  have hover : (delegation world (.str s) slots w d).2 = d' := hstate
  rw [← hover] at hp
  exact ⟨hp.calls, hresult⟩

theorem delegation_first_hit (world : Script) (hshort : world.ShortWords) (hs : Address.ofText? s = some a)
    (slots : List ProxySlot) (w : Window) (d : Desk) :
    let run := delegation world (.str s) slots w d
    w.reaches run.1.ends = true →
      (∀ earlier slot later, slots = earlier ++ slot :: later → world.Silent d.view a earlier →
        (∀ x, world.held d.view a earlier slot = .ok x → Script.amount x ≠ 0 →
          Desk.ReadInOrder a (earlier ++ [slot]) d run.2 ∧ ∃ b : Address,
            bigEndian b.bytes = Script.amount x % 2 ^ 160 ∧ run.1.result = .ok (some ⟨b, slot.name⟩)) ∧
        (∀ n e, slotNumber slot.position = .ok n → world.held d.view a earlier slot = .error e →
          Desk.ReadInOrder a (earlier ++ [slot]) d run.2 ∧ e.isIn .network = true ∧ run.1.result = .error e) ∧
        ∀ e, slotNumber slot.position = .error e →
          Desk.ReadInOrder a earlier d run.2 ∧ run.1.result = .error e) ∧
      (world.Silent d.view a slots → Desk.ReadInOrder a slots d run.2 ∧ run.1.result = .ok none) := by
  intro run hreach
  refine ⟨?_, fun hsilent => delegation_clear hshort hs hsilent hreach⟩
  rintro earlier slot later rfl hsilent
  refine ⟨fun x hx hsome => ?_, fun n e hn he => ?_, fun e he => delegation_unnumbered hshort hs hsilent hreach he⟩
  · obtain ⟨hcalls, hresult⟩ := delegation_hit hshort hs hsilent hreach hx hsome
    exact ⟨hcalls, _, Address.bigEndian_ofWord x, hresult⟩
  · obtain ⟨hcalls, hresult⟩ := delegation_unread hshort hs hsilent hreach hn he
    rw [Script.held_of_number hn] at he
    exact ⟨hcalls, Script.isIn_network_of_answer he, hresult⟩

def sparseWorld : Script :=
  { Script.quiet with
    storage := fun _ n =>
      if n = 1 then [.atOnce none]
      else if n = 2 then [.atOnce (some [9, 0])]
      else [⟨.fault ⟨.timeout, ""⟩, .zero⟩] }

def sparseSlots : List ProxySlot := [.ofTexts "one" "0x1", .ofTexts "two" "0x2", .ofTexts "three" "0x3"]

theorem delegation_first_hit_sparseWorld :
    let run := delegation sparseWorld (.str Address.zeroText) sparseSlots ⟨.ofInstant .start, none⟩ .idle
    sparseWorld.ShortWords ∧ Address.ofText? Address.zeroText = some .zero ∧
      Window.reaches ⟨.ofInstant .start, none⟩ run.1.ends = true ∧
      Desk.ReadInOrder .zero [.ofTexts "one" "0x1", .ofTexts "two" "0x2"] .idle run.2 ∧
      ∃ b : Address, bigEndian b.bytes = 0x900 ∧ run.1.result = .ok (some ⟨b, .str "two"⟩) := by
  have hshort : sparseWorld.ShortWords := by
    intro a n e he u hu
    simp only [sparseWorld] at he
    split at he
    · cases List.mem_singleton.1 he
      cases hu
    · split at he
      · cases List.mem_singleton.1 he
        cases hu
        decide
      · cases List.mem_singleton.1 he
        cases hu
  have hmissing : sparseWorld.held Desk.idle.view .zero [] (.ofTexts "one" "0x1") = .ok none :=
    (Script.held_of_number rfl).trans ((Script.answer_eq_ok_iff _).2 ⟨by decide +kernel, rfl⟩)
  have hshortWord : sparseWorld.held Desk.idle.view .zero [.ofTexts "one" "0x1"] (.ofTexts "two" "0x2") =
      .ok (some [9, 0]) :=
    (Script.held_of_number rfl).trans ((Script.answer_eq_ok_iff _).2 ⟨by decide +kernel, rfl⟩)
  have hsilent : sparseWorld.Silent Desk.idle.view .zero [.ofTexts "one" "0x1"] :=
    Script.silent_concat_iff.2 ⟨Script.silent_nil, none, hmissing, rfl⟩
  obtain ⟨hfirst, -⟩ := delegation_first_hit sparseWorld hshort Address.ofText?_zeroText sparseSlots
    ⟨.ofInstant .start, none⟩ .idle rfl
  obtain ⟨hcalls, hresult⟩ := (hfirst _ _ _ rfl hsilent).1 _ hshortWord (by decide)
  exact ⟨hshort, Address.ofText?_zeroText, rfl, hcalls, hresult⟩

end Work

end ChainRisk
