namespace ChainRisk.Text

def lines (s : String) : List String := (s.toList.splitOn '\n').map String.ofList

def Unbroken (s : String) : Prop := '\n' ∉ s.toList

instance (s : String) : Decidable (Unbroken s) := inferInstanceAs (Decidable (_ ∉ _))

variable {s t : String} {ls : List String}

theorem lines_ne_nil (s : String) : lines s ≠ [] := by
  simp [lines, List.splitOn_ne_nil]

theorem lines_of_unbroken (h : Unbroken s) : lines s = [s] := by
  rw [lines, List.splitOn_eq_singleton h, List.map_singleton, String.ofList_toList]

theorem lines_append_break (s t : String) : lines (s ++ "\n" ++ t) = lines s ++ lines t := by
  have hlist : (s ++ "\n" ++ t).toList = s.toList ++ '\n' :: t.toList := by simp
  rw [lines, hlist, List.splitOn_append_cons_self, List.map_append]
  rfl

theorem lines_joined (hne : ls ≠ []) : lines ("\n".intercalate ls) = ls.flatMap lines := by
  induction ls with
  | nil => exact absurd rfl hne
  | cons s ls ih =>
    by_cases hls : ls = []
    · subst hls
      simp
    · rw [String.intercalate_cons_of_ne_nil hls, lines_append_break, ih hls, List.flatMap_cons]

theorem flatMap_lines_of_unbroken (h : ∀ s ∈ ls, Unbroken s) : ls.flatMap lines = ls := by
  induction ls with
  | nil => rfl
  | cons s ls ih =>
    rw [List.flatMap_cons, lines_of_unbroken (h s List.mem_cons_self),
      ih fun s hs => h s (List.mem_cons_of_mem _ hs)]
    rfl

theorem splitOn_append_of_not_mem {cs : List Char} (h : '\n' ∉ cs) (ds : List Char) :
    (cs ++ ds).splitOn '\n' = (ds.splitOn '\n').modifyHead (cs ++ ·) := by
  induction cs with
  | nil =>
    rw [List.nil_append]
    cases ds.splitOn '\n' <;> rfl
  | cons c cs ih =>
    have hc : (c == '\n') = false := by
      simpa using fun hc : c = '\n' => h (hc ▸ List.mem_cons_self)
    rw [List.cons_append, List.splitOn_cons_eq_if_modifyHead, hc, if_neg Bool.false_ne_true,
      ih fun hmem => h (List.mem_cons_of_mem _ hmem), List.modifyHead_modifyHead]
    rfl

theorem lines_append_of_unbroken (h : Unbroken s) (t : String) :
    lines (s ++ t) = (lines t).modifyHead (s ++ ·) := by
  rw [lines, lines, String.toList_append, splitOn_append_of_not_mem h]
  cases t.toList.splitOn '\n' with
  | nil => rfl
  | cons l ls => simp [String.ofList_append]

def firstLine (s : String) : String := (lines s).headD ""

def laterLines (s : String) : List String := (lines s).tail

theorem lines_labelled (h : Unbroken s) (t : String) : lines (s ++ t) = (s ++ firstLine t) :: laterLines t := by
  rw [lines_append_of_unbroken h, firstLine, laterLines]
  cases ht : lines t with
  | nil => exact absurd ht (lines_ne_nil t)
  | cons l ls => rfl

def Leads (lead line : String) : Prop := lead.toList <+: line.toList

instance (lead line : String) : Decidable (Leads lead line) := inferInstanceAs (Decidable (_ <+: _))

def linesLed (lead s : String) : List String := (lines s).filter fun line => Leads lead line

variable {lead label : String}

theorem leads_append (lead s : String) : Leads lead (lead ++ s) := by
  rw [Leads, String.toList_append]
  exact List.prefix_append _ _

theorem not_leads_append (h : ¬ Leads lead label) (h' : ¬ Leads label lead) (s : String) :
    ¬ Leads lead (label ++ s) := by
  intro hlead
  rcases List.prefix_or_prefix_of_prefix hlead (leads_append label s) with hp | hp
  · exact h hp
  · exact h' hp

theorem linesLed_labelled_self (h : Unbroken lead) (s : String) :
    linesLed lead (lead ++ s) = (lead ++ firstLine s) :: (laterLines s).filter fun line => Leads lead line := by
  rw [linesLed, lines_labelled h, List.filter_cons_of_pos (by simpa using leads_append lead _)]

theorem linesLed_labelled (h : Unbroken label) (hlead : ∀ t, ¬ Leads lead (label ++ t)) (s : String) :
    linesLed lead (label ++ s) = (laterLines s).filter fun line => Leads lead line := by
  rw [linesLed, lines_labelled h, List.filter_cons_of_neg (by simpa using hlead _)]

end ChainRisk.Text
