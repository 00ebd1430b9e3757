import ChainRisk.CommandLine.Arguments
import ChainRisk.Proofs.Untimed

namespace ChainRisk.CommandLine.Arguments

open Word

def jsonText : String := "--json"

def jsonWord : Word := .option ⟨.json, false, none⟩

def Progress.structured (p : Progress) : Progress := { p with json := true }

def structured (args : Arguments) : Arguments := { args with json := true }

inductive Fits (command : Command) : Progress → List Word → Progress → Prop
  | done (p : Progress) : Fits command p [] p
  | address {p q : Progress} {text : String} {rest : List Word} (hp : p.address = none)
    (hrest : rest.head? ≠ some .separator) (h : Fits command (p.putAddress text) rest q) :
    Fits command p (.plain text :: rest) q
  | addressBefore {p q : Progress} {text : String} {rest : List Word} (hp : p.address = none)
    (h : Fits command (p.putAddress text) rest q) : Fits command p (.plain text :: .separator :: rest) q
  | addressAfter {p q : Progress} {text : String} {rest : List Word} (hp : p.address = none)
    (h : Fits command (p.putAddress text) rest q) : Fits command p (.separator :: .plain text :: rest) q
  | joined {p p' q : Progress} {u : Use} {value : List Char} {rest : List Word} (hu : u.switch.takesValue = true)
    (hvalue : u.joined = some value) (hput : p.putValue u.switch (String.ofList value) = .ok p')
    (h : Fits command p' rest q) : Fits command p (.option u :: rest) q
  | value {p p' q : Progress} {u : Use} {value : String} {rest : List Word} (hu : u.switch.takesValue = true)
    (hnone : u.joined = none) (hput : p.putValue u.switch value = .ok p') (h : Fits command p' rest q) :
    Fits command p (.option u :: .plain value :: rest) q
  | flag {p p' q : Progress} {u : Use} {rest : List Word} (hu : u.switch.takesValue = false)
    (hflag : Arguments.flag (some command) u p = .ok p') (h : Fits command p' rest q) :
    Fits command p (.option u :: rest) q

variable {command : Command} {p p' q q' : Progress} {ws wb wa rest : List Word} {u : Use}

theorem eq_of_putValue {s : Switch} {value : String} (h : p.putValue s value = .ok p') :
    ∃ network level, p' = { p with network := network, logLevel := level } ∧
      (network = p.network ∨ network ∈ networkChoices) := by
  unfold Progress.putValue at h
  split at h
  · split at h
    · next hchoice =>
      cases h
      exact ⟨value, p.logLevel, rfl, .inr hchoice⟩
    · cases h
  · cases h
    exact ⟨p.network, some value, rfl, .inl rfl⟩
  · cases h
    exact ⟨p.network, p.logLevel, rfl, .inl rfl⟩

theorem extra_of_putValue {s : Switch} {value : String} (h : p.putValue s value = .ok p') :
    p'.extra = p.extra := by
  obtain ⟨network, level, rfl, -⟩ := eq_of_putValue h
  rfl

theorem eq_of_flag {c : Option Command} (h : Arguments.flag c u p = .ok p') : p' = p.structured := by
  unfold Arguments.flag at h
  split at h
  · cases h
  · split at h
    · cases h
    · cases h
      rfl

theorem extra_of_readWords (h : readWords command p ws = .ok q) : p.extra <+: q.extra := by
  fun_induction readWords command p ws with
  | case1 => cases h; exact List.prefix_rfl
  | case2 p text rest hp ih => exact ih h
  | case3 p text rest hrest hp ih => exact ih h
  | case4 p text _ rest hp ih => exact (List.prefix_append _ _).trans (ih h)
  | case5 p text rest hp ih => exact ih h
  | case6 p rest hrest ih => exact (List.prefix_append _ _).trans (ih h)
  | case7 p text rest ih => exact (List.prefix_append _ _).trans (ih h)
  | case8 p u hu value rest hvalue p' hput ih => exact (extra_of_putValue hput) ▸ ih h
  | case9 => cases h
  | case10 p u hu value rest hvalue p' hput ih => exact (extra_of_putValue hput) ▸ ih h
  | case11 => cases h
  | case12 => cases h
  | case13 p u rest hu p' hflag ih => exact (congrArg Progress.extra (eq_of_flag hflag)) ▸ ih h
  | case14 => cases h

theorem fits_of_readWords (h : readWords command p ws = .ok q) (hq : q.extra = []) : Fits command p ws q := by
  have hnone {text : String} {p : Progress} (h : (p.putExtra text).extra <+: q.extra) : False := by
    rw [hq, List.prefix_nil] at h
    exact List.append_ne_nil_of_right_ne_nil _ (List.cons_ne_nil _ _) h
  fun_induction readWords command p ws with
  | case1 => cases h; exact .done _
  | case2 p text rest hp ih => exact .addressBefore hp (ih h)
  | case3 p text rest hrest hp ih =>
    refine .address hp ?_ (ih h)
    cases rest with
    | nil => nofun
    | cons w rest => rintro ⟨⟩; exact hrest rest rfl
  | case4 p text _ rest hp ih => exact (hnone (extra_of_readWords h)).elim
  | case5 p text rest hp ih => exact .addressAfter hp (ih h)
  | case6 p rest hrest ih => exact (hnone (extra_of_readWords h)).elim
  | case7 p text rest ih => exact (hnone (extra_of_readWords h)).elim
  | case8 p u hu value rest hvalue p' hput ih =>
    obtain ⟨cs, hcs, rfl⟩ := Option.map_eq_some_iff.1 hvalue
    exact .joined hu hcs hput (ih h)
  | case9 => cases h
  | case10 p u hu value rest hvalue p' hput ih => exact .value hu (Option.map_eq_none_iff.1 hvalue) hput (ih h)
  | case11 => cases h
  | case12 => cases h
  | case13 p u rest hu p' hflag ih => exact .flag (eq_false_of_ne_true hu) hflag (ih h)
  | case14 => cases h

theorem readWords_of_fits (h : Fits command p ws q) : readWords command p ws = .ok q := by
  induction h with
  | done => rfl
  | address hp hrest h ih =>
    rw [readWords]
    · exact ih
    · exact hp
    · rintro rest rfl
      exact hrest rfl
  | addressBefore hp h ih =>
    rw [readWords]
    · exact ih
    · exact hp
  | addressAfter hp h ih =>
    rw [readWords]
    · exact ih
    · exact hp
  | joined hu hvalue hput h ih =>
    rw [readWords.eq_def]
    simp only [hu, hvalue, hput, if_true, Option.map_some]
    exact ih
  | value hu hnone hput h ih =>
    rw [readWords.eq_def]
    simp only [hu, hnone, hput, if_true, Option.map_none]
    exact ih
  | flag hu hflag h ih =>
    rw [readWords.eq_def]
    simp only [hu, hflag, Bool.false_eq_true, if_false]
    exact ih

theorem Fits.unique (h : Fits command p ws q) (h' : Fits command p ws q') : q' = q := by
  have hq := readWords_of_fits h
  rw [readWords_of_fits h'] at hq
  exact Except.ok.inj hq

theorem putValue_structured {s : Switch} {value : String} (h : p.putValue s value = .ok p') :
    p.structured.putValue s value = .ok p'.structured := by
  unfold Progress.putValue at h ⊢
  split at h
  · split at h
    · next hchoice =>
      cases h
      exact if_pos hchoice
    · cases h
  · cases h
    rfl
  · cases h
    rfl

theorem flag_structured {c : Option Command} (h : Arguments.flag c u p = .ok p') :
    Arguments.flag c u p.structured = .ok p'.structured := by
  rw [eq_of_flag h]
  unfold Arguments.flag at h ⊢
  split at h
  · cases h
  · split at h
    · cases h
    · next hrefused hhelp =>
      rw [if_neg hhelp]
      rfl

theorem Fits.structured (h : Fits command p ws q) : Fits command p.structured ws q.structured := by
  induction h with
  | done p => exact .done _
  | address hp hrest _ ih => exact .address hp hrest ih
  | addressBefore hp _ ih => exact .addressBefore hp ih
  | addressAfter hp _ ih => exact .addressAfter hp ih
  | joined hu hvalue hput _ ih => exact .joined hu hvalue (putValue_structured hput) ih
  | value hu hnone hput _ ih => exact .value hu hnone (putValue_structured hput) ih
  | flag hu hflag _ ih => exact .flag hu (flag_structured hflag) ih

theorem fits_jsonWord (h : Fits command p ws q) : Fits command p (jsonWord :: ws) q.structured :=
  .flag rfl rfl h.structured

theorem of_fits_jsonWord (h : Fits command p (jsonWord :: ws) q) : Fits command p.structured ws q := by
  cases h with
  | joined hu => cases hu
  | value hu => cases hu
  | flag _ hflag h => exact eq_of_flag hflag ▸ h

theorem Fits.inserted_second {w : Word} (h : Fits command p (w :: wa) q)
    (h' : Fits command p (w :: jsonWord :: wa) q') : q' = q.structured := by
  unfold jsonWord at h'
  cases h' with
  | address _ _ h' =>
    have h' := of_fits_jsonWord h'
    cases h with
    | address _ _ h => exact h.structured.unique h'
    | addressBefore _ h =>
      -- behind the option the separator is a word of its own, for which there is no place
      cases h' with
      | addressAfter hp => cases hp
  | joined hu hvalue hput h' =>
    have h' := of_fits_jsonWord h'
    cases h with
    | joined _ hvalue' hput' h =>
      cases hvalue.symm.trans hvalue'
      cases hput.symm.trans hput'
      exact h.structured.unique h'
    | value _ hnone => cases hvalue.symm.trans hnone
    | flag hu' => cases hu.symm.trans hu'
  | flag hu hflag h' =>
    have h' := of_fits_jsonWord h'
    cases h with
    | joined hu' => cases hu.symm.trans hu'
    | value hu' => cases hu.symm.trans hu'
    | flag _ hflag' h =>
      cases hflag.symm.trans hflag'
      exact h.structured.unique h'

theorem Fits.inserted : (wb : List Word) → {p : Progress} → Fits command p (wb ++ wa) q →
    Fits command p (wb ++ jsonWord :: wa) q' → q' = q.structured
  | [], _, h, h' => (fits_jsonWord h).unique h'
  | [_], _, h, h' => h.inserted_second h'
  | w :: w' :: wb, p, h, h' => by
    -- two words that are read together stand before the option both
    cases h with
    | address _ hrest h =>
      cases h' with
      | address _ _ h' => exact Fits.inserted (w' :: wb) h h'
      | addressBefore => exact absurd rfl hrest
    | addressBefore _ h =>
      cases h' with
      | address _ hrest => exact absurd rfl hrest
      | addressBefore _ h' => exact Fits.inserted wb h h'
    | addressAfter _ h =>
      cases h' with
      | addressAfter _ h' => exact Fits.inserted wb h h'
    | joined hu hvalue hput h =>
      cases h' with
      | joined _ hvalue' hput' h' =>
        cases hvalue.symm.trans hvalue'
        cases hput.symm.trans hput'
        exact Fits.inserted (w' :: wb) h h'
      | value _ hnone => cases hvalue.symm.trans hnone
      | flag hu' => cases hu.symm.trans hu'
    | value hu hnone hput h =>
      cases h' with
      | joined _ hvalue => cases hnone.symm.trans hvalue
      | value _ _ hput' h' =>
        cases hput.symm.trans hput'
        exact Fits.inserted wb h h'
      | flag hu' => cases hu.symm.trans hu'
    | flag hu hflag h =>
      cases h' with
      | joined hu' => cases hu.symm.trans hu'
      | value hu' => cases hu.symm.trans hu'
      | flag _ hflag' h' =>
        cases hflag.symm.trans hflag'
        exact Fits.inserted (w' :: wb) h h'
  termination_by wb => wb.length

def isPlain : Word → Bool
  | .plain _ => true
  | _ => false

def wantsValue : Word → Bool
  | .option u => u.switch.takesValue && u.joined.isNone
  | _ => false

def Progress.named (p : Progress) : Nat := if p.address.isSome then 1 else 0

theorem named_putAddress (text : String) (p : Progress) : (p.putAddress text).named = 1 := rfl

theorem named_of_none (h : p.address = none) : p.named = 0 := by
  rw [Progress.named, h]
  rfl

theorem named_of_putValue {s : Switch} {value : String} (h : p.putValue s value = .ok p') :
    p'.named = p.named := by
  obtain ⟨network, level, rfl, -⟩ := eq_of_putValue h
  rfl

theorem Fits.count (h : Fits command p ws q) :
    ws.countP isPlain + p.named = q.named + ws.countP wantsValue := by
  induction h with
  | done p => simp
  | address hp _ _ ih =>
    rw [named_putAddress] at ih
    rw [named_of_none hp, List.countP_cons_of_pos rfl, List.countP_cons_of_neg (by simp [wantsValue])]
    omega
  | addressBefore hp _ ih =>
    rw [named_putAddress] at ih
    rw [named_of_none hp, List.countP_cons_of_pos rfl, List.countP_cons_of_neg (by simp [isPlain]),
      List.countP_cons_of_neg (by simp [wantsValue]), List.countP_cons_of_neg (by simp [wantsValue])]
    omega
  | addressAfter hp _ ih =>
    rw [named_putAddress] at ih
    rw [named_of_none hp, List.countP_cons_of_neg (by simp [isPlain]), List.countP_cons_of_pos rfl,
      List.countP_cons_of_neg (by simp [wantsValue]), List.countP_cons_of_neg (by simp [wantsValue])]
    omega
  | joined hu hvalue hput _ ih =>
    rw [named_of_putValue hput] at ih
    rw [List.countP_cons_of_neg (by simp [isPlain]), List.countP_cons_of_neg (by simp [wantsValue, hvalue])]
    exact ih
  | value hu hnone hput _ ih =>
    rw [named_of_putValue hput] at ih
    rw [List.countP_cons_of_neg (by simp [isPlain]), List.countP_cons_of_pos rfl,
      List.countP_cons_of_pos (by simp [wantsValue, hu, hnone]), List.countP_cons_of_neg (by simp [wantsValue])]
    omega
  | flag hu hflag _ ih =>
    rw [eq_of_flag hflag] at ih
    rw [List.countP_cons_of_neg (by simp [isPlain]), List.countP_cons_of_neg (by simp [wantsValue, hu])]
    exact ih

theorem Fits.not_plain_inserted {text : String} (h : Fits command p (wb ++ wa) q) (hq : q.address.isSome = true)
    (h' : Fits command p (wb ++ .plain text :: wa) q') (hq' : q'.address.isSome = true) : False := by
  -- one plain word more asks for one address or one option with a value more
  have hcount := h.count
  have hcount' := h'.count
  have hnamed : q.named = 1 := if_pos hq
  have hnamed' : q'.named = 1 := if_pos hq'
  rw [List.countP_append, List.countP_append] at hcount hcount'
  rw [List.countP_cons_of_pos rfl, List.countP_cons_of_neg (by simp [wantsValue])] at hcount'
  omega

theorem ofText_jsonText : Word.ofText spellings jsonText = .ok jsonWord := by
  have hspelled : spelled? spellings jsonText = some ⟨.json, false, none⟩ := rfl
  have hlist : jsonText.toList = '-' :: '-' :: ['j', 's', 'o', 'n'] := rfl
  rw [Word.ofText, hlist]
  simp only [hspelled]
  rfl

theorem ofText_jsonText_main : Word.ofText mainSpellings jsonText = .ok (.unknown jsonText) := by
  have hspelled : spelled? mainSpellings jsonText = none := rfl
  have hguessed : guessed mainSpellings jsonText = .ok (.unknown jsonText) := rfl
  have hlist : jsonText.toList = '-' :: '-' :: ['j', 's', 'o', 'n'] := rfl
  rw [Word.ofText, hlist]
  simp only [hspelled]
  exact hguessed

theorem ofTexts_cons {s : Spellings} {text : String} {rest : List String} {ws : List Word}
    (hne : text ≠ separatorText) (h : Word.ofTexts s (text :: rest) = .ok ws) :
    ∃ w ws', Word.ofText s text = .ok w ∧ Word.ofTexts s rest = .ok ws' ∧ ws = w :: ws' := by
  rw [Word.ofTexts, if_neg hne] at h
  cases hw : Word.ofText s text with
  | error c => rw [hw] at h; cases h
  | ok w =>
    cases hrest : Word.ofTexts s rest with
    | error c => rw [hw, hrest] at h; cases h
    | ok ws' =>
      rw [hw, hrest] at h
      cases h
      exact ⟨w, ws', rfl, rfl, rfl⟩

variable {before after words : List String} {args args' : Arguments} {command' : Command}

theorem jsonText_ne : jsonText ≠ separatorText := by decide +kernel

theorem ofTexts_inserted {ws ws' : List Word} (h : Word.ofTexts spellings (before ++ after) = .ok ws)
    (h' : Word.ofTexts spellings (before ++ jsonText :: after) = .ok ws') :
    ∃ wb wa, ws = wb ++ wa ∧ (ws' = wb ++ jsonWord :: wa ∨ ws' = wb ++ .plain jsonText :: wa) := by
  induction before generalizing ws ws' with
  | nil =>
    obtain ⟨w, rest, hw, hrest, rfl⟩ := ofTexts_cons jsonText_ne h'
    cases hw.symm.trans ofText_jsonText
    cases h.symm.trans hrest
    exact ⟨[], ws, rfl, .inl rfl⟩
  | cons text before ih =>
    rw [List.cons_append] at h h'
    by_cases hseparator : text = separatorText
    · -- behind the separator the option is a plain word
      rw [Word.ofTexts, if_pos hseparator] at h h'
      cases h
      cases h'
      exact ⟨.separator :: before.map .plain, after.map .plain, by simp, .inr (by simp)⟩
    · obtain ⟨w, rest, hw, hrest, rfl⟩ := ofTexts_cons hseparator h
      obtain ⟨w', rest', hw', hrest', rfl⟩ := ofTexts_cons hseparator h'
      cases hw.symm.trans hw'
      obtain ⟨wb, wa, rfl, hplace⟩ := ih hrest hrest'
      refine ⟨w :: wb, wa, rfl, ?_⟩
      rcases hplace with rfl | rfl
      · exact .inl rfl
      · exact .inr rfl

def told (command : Command) (before : List String) (p : Progress) : Except Halt (Command × Arguments) :=
  match p.address with
  | none => .error (.complaint command (.missing "address"))
  | some address =>
    if before ++ p.extra = [] then .ok (command, ⟨address, p.network, p.json, p.logLevel⟩)
    else .error (.complaint none (.unrecognized (before ++ p.extra)))

theorem ofCommand_eq {rest : List String} (hws : Word.ofTexts spellings rest = .ok ws) :
    ofCommand command before rest = (readWords command .start ws).bind (told command before) := by
  rw [ofCommand, hws]
  rfl

theorem told_eq_ok {c : Command} (h : told command before p = .ok (c, args)) :
    c = command ∧ before = [] ∧ p.extra = [] ∧ p.address = some args.address ∧
      args = ⟨args.address, p.network, p.json, p.logLevel⟩ := by
  unfold told at h
  split at h
  · cases h
  · next address haddress =>
    split at h
    · next hempty =>
      cases h
      obtain ⟨hbefore, hextra⟩ := List.append_eq_nil_iff.1 hempty
      exact ⟨rfl, hbefore, hextra, haddress, rfl⟩
    · cases h

theorem ofCommand_eq_ok {c : Command} {rest : List String} (h : ofCommand command before rest = .ok (c, args)) :
    c = command ∧ before = [] ∧ ∃ ws p, Word.ofTexts spellings rest = .ok ws ∧ Fits command .start ws p ∧
      p.extra = [] ∧ p.address = some args.address ∧
        args = ⟨args.address, p.network, p.json, p.logLevel⟩ := by
  cases hws : Word.ofTexts spellings rest with
  | error e =>
    rw [ofCommand, hws] at h
    cases h
  | ok ws =>
    rw [ofCommand_eq hws] at h
    cases hp : readWords command .start ws with
    | error e =>
      rw [hp] at h
      cases h
    | ok p =>
      rw [hp] at h
      obtain ⟨hc, hbefore, hextra, haddress, hargs⟩ := told_eq_ok h
      exact ⟨hc, hbefore, ws, p, rfl, fits_of_readWords hp hextra, hextra, haddress, hargs⟩

theorem ofCommand_of_fits {rest : List String} (hws : Word.ofTexts spellings rest = .ok ws)
    (hfits : Fits command .start ws p) (hextra : p.extra = []) {address : String}
    (haddress : p.address = some address) :
    ofCommand command [] rest = .ok (command, ⟨address, p.network, p.json, p.logLevel⟩) := by
  rw [ofCommand_eq hws, readWords_of_fits hfits]
  change told command [] p = _
  rw [told, haddress]
  exact if_pos hextra

theorem ofCommand_inserted {c c' : Command} (h : ofCommand command [] (before ++ after) = .ok (c, args))
    (h' : ofCommand command [] (before ++ jsonText :: after) = .ok (c', args')) :
    c' = c ∧ args' = args.structured := by
  obtain ⟨rfl, -, ws, p, hws, hfits, -, haddress, hargs⟩ := ofCommand_eq_ok h
  obtain ⟨rfl, -, ws', p', hws', hfits', -, haddress', hargs'⟩ := ofCommand_eq_ok h'
  obtain ⟨wb, wa, rfl, rfl | rfl⟩ := ofTexts_inserted hws hws'
  · obtain rfl := Fits.inserted wb hfits hfits'
    have hsame : args'.address = args.address := Option.some.inj (haddress'.symm.trans haddress)
    rw [hargs', hargs, hsame]
    exact ⟨rfl, rfl⟩
  · exact (hfits.not_plain_inserted (by rw [haddress]; rfl) hfits' (by rw [haddress']; rfl)).elim

theorem ofCommand_structured {c : Command} {rest : List String} (h : ofCommand command [] rest = .ok (c, args)) :
    ofCommand command [] (jsonText :: rest) = .ok (c, args.structured) := by
  obtain ⟨rfl, -, ws, p, hws, hfits, hextra, haddress, hargs⟩ := ofCommand_eq_ok h
  have htexts : Word.ofTexts spellings (jsonText :: rest) = .ok (jsonWord :: ws) := by
    rw [Word.ofTexts, if_neg jsonText_ne, ofText_jsonText, hws]
    rfl
  rw [ofCommand_of_fits htexts (fits_jsonWord hfits) hextra haddress, hargs]
  rfl

theorem switch_of_candidates {s : Spellings} {cs : List Char} {c : String × Use} (h : c ∈ candidates s cs) :
    ∃ e ∈ s, c.2.switch = e.2 := by
  unfold candidates at h
  split at h
  · obtain ⟨e, he, rfl⟩ := List.mem_map.1 h
    exact ⟨e, (List.mem_filter.1 he).1, rfl⟩
  · obtain ⟨e, he, hc⟩ := List.mem_filterMap.1 h
    split at hc
    · cases hc
      exact ⟨e, he, rfl⟩
    · split at hc
      · cases hc
        exact ⟨e, he, rfl⟩
      · cases hc

theorem switch_of_spelled? {s : Spellings} {text : String} (h : spelled? s text = some u) :
    ∃ e ∈ s, u.switch = e.2 := by
  unfold spelled? at h
  simp only at h
  split at h
  · next e he =>
    cases h
    exact ⟨e, List.mem_of_find?_eq_some he, rfl⟩
  · split at h
    · obtain ⟨e, he, rfl⟩ := Option.map_eq_some_iff.1 h
      exact ⟨e, List.mem_of_find?_eq_some he, rfl⟩
    · cases h

theorem switch_of_ofText {s : Spellings} {text : String} (h : Word.ofText s text = .ok (.option u)) :
    ∃ e ∈ s, u.switch = e.2 := by
  unfold Word.ofText at h
  split at h
  · split at h
    · next hspelled =>
      cases h
      exact switch_of_spelled? hspelled
    · unfold guessed at h
      split at h
      · split at h
        · cases h
        · cases h
      · next c hc =>
        cases h
        exact switch_of_candidates (hc ▸ List.mem_singleton_self c)
      · cases h
  · cases h

theorem flag_mainSpellings {text : String} (h : Word.ofText mainSpellings text = .ok (.option u)) :
    Arguments.flag none u p ≠ .ok p' := by
  have hhelp : u.switch = .help := by
    obtain ⟨e, he, hu⟩ := switch_of_ofText h
    rw [hu]
    simp only [mainSpellings, List.mem_cons, List.not_mem_nil, or_false] at he
    rcases he with rfl | rfl <;> rfl
  intro hflag
  unfold Arguments.flag at hflag
  split at hflag
  · cases hflag
  · rw [if_pos hhelp] at hflag
    cases hflag

theorem named_eq_ok {c : Command} {name : String} {rest : List String}
    (h : named before name rest = .ok (c, args)) :
    before = [] ∧ ∀ rest, named [] name rest = ofCommand c [] rest := by
  unfold named at h
  split at h
  · next command hname =>
    obtain ⟨rfl, rfl, -⟩ := ofCommand_eq_ok h
    refine ⟨rfl, ?_⟩
    intro rest
    rw [named, hname]
  · cases h

theorem parseFrom_eq_ok {c : Command} (h : parseFrom before words = .ok (c, args)) :
    before = [] ∧ ∃ name rest, words = name :: rest ∧
      ∀ rest, parseFrom [] (name :: rest) = ofCommand c [] rest := by
  induction words generalizing before with
  | nil => cases h
  | cons text rest ih =>
    rw [parseFrom] at h
    split at h
    · next hseparator =>
      subst hseparator
      split at h
      · cases h
      · cases h
    · next hseparator =>
      split at h
      · cases h
      · next name hname =>
        obtain ⟨rfl, hcommand⟩ := named_eq_ok h
        refine ⟨rfl, text, rest, rfl, ?_⟩
        intro rest
        rw [parseFrom, if_neg hseparator, hname]
        exact hcommand rest
      · next u hu =>
        split at h
        · next hflag => exact absurd hflag (flag_mainSpellings hu)
        · cases h
      · exact absurd (ih h).1 (by simp)

theorem parse_eq_ok (h : parse words = .ok (command, args)) : ∃ name rest, words = name :: rest ∧
    ofCommand command [] rest = .ok (command, args) ∧
      ∀ rest, parse (name :: rest) = ofCommand command [] rest := by
  obtain ⟨-, name, rest, rfl, hname⟩ := parseFrom_eq_ok h
  exact ⟨name, rest, rfl, (hname rest).symm.trans h, hname⟩

theorem parse_inserted (h : parse (before ++ after) = .ok (command, args))
    (h' : parse (before ++ jsonText :: after) = .ok (command', args')) :
    command' = command ∧ args' = args.structured := by
  obtain ⟨name, rest, hwords, hrest, hname⟩ := parse_eq_ok h
  cases before with
  | nil =>
    rw [List.nil_append, parse, parseFrom, if_neg jsonText_ne, ofText_jsonText_main] at h'
    exact absurd (parseFrom_eq_ok h').1 (by simp)
  | cons text before =>
    obtain ⟨rfl, rfl⟩ := List.cons.inj hwords
    rw [List.cons_append, hname] at h'
    exact ofCommand_inserted hrest h'

theorem parse_structured (h : parse words = .ok (command, args)) : ∃ name rest, words = name :: rest ∧
    parse (name :: jsonText :: rest) = .ok (command, args.structured) := by
  obtain ⟨name, rest, rfl, hrest, hname⟩ := parse_eq_ok h
  exact ⟨name, rest, rfl, (hname _).trans (ofCommand_structured hrest)⟩

theorem network_of_putValue {s : Switch} {value : String} (h : p.putValue s value = .ok p')
    (hp : p.network ∈ networkChoices) : p'.network ∈ networkChoices := by
  obtain ⟨network, level, rfl, rfl | hnetwork⟩ := eq_of_putValue h
  · exact hp
  · exact hnetwork

theorem network_of_fits (h : Fits command p ws q) (hp : p.network ∈ networkChoices) :
    q.network ∈ networkChoices := by
  induction h with
  | done p => exact hp
  | address _ _ _ ih => exact ih hp
  | addressBefore _ _ ih => exact ih hp
  | addressAfter _ _ ih => exact ih hp
  | joined _ _ hput _ ih => exact ih (network_of_putValue hput hp)
  | value _ _ hput _ ih => exact ih (network_of_putValue hput hp)
  | flag _ hflag _ ih =>
    rw [eq_of_flag hflag] at ih
    exact ih hp

theorem network_of_parse (h : parse words = .ok (command, args)) : args.network ∈ networkChoices := by
  obtain ⟨_, _, _, hrest, _⟩ := parse_eq_ok h
  obtain ⟨-, -, ws, p, -, hfits, -, -, hargs⟩ := ofCommand_eq_ok hrest
  rw [hargs]
  exact network_of_fits hfits List.mem_cons_self

end ChainRisk.CommandLine.Arguments
