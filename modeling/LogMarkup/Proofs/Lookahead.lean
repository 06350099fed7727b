import LogMarkup.Proofs.Exploration

/-!
# Lookahead

Several terminals can match at one place, and chains that take different ones can go on
side by side for a while.  But only one of them can still become a message: the next few
characters say which.  So a text is the spelling of one message at most, and the chain
of that message is the only one that is ever completed.

Main results:

- `Reading.kind_eq_lead`: a chain that is completed takes the terminal that the
  characters ahead announce.
- `Reading.completed_unique`: a text is completed by one chain at most.
-/

namespace LogMarkup

open Terminal

/-- The terminal that the characters ahead announce, where something new may begin. -/
def Position.lead (p : Position) (s : List Char) : Terminal :=
  if startsCall s then .functionName
  else if (Lexeme.sign .ifStart).chars <+: s then .ifStart
  else if (Lexeme.sign .elseMark).chars <+: s then .elseMark
  else if (Lexeme.sign .ifEnd).chars <+: s then .ifEnd
  else if s.head? = some '<' then .tagStart
  else if p = .part then .text
  else if s.head?.any Char.isDigit then .number
  else .objectName

/-- The terminal that the next character announces behind the words of an unfinished
part. -/
def Reading.lead (r : Reading) (s : List Char) : Terminal :=
  match r.point with
  | .start => r.context.position.lead s
  | .param => if s.head? = some ',' then .comma else .closeParen
  | .condition _ => .conditionEnd
  | .functionName _ => .openParen
  | .tagStart | .closing .. => .tagName
  | .tagName _ | .tagParams .. =>
      if s.head? = some '(' then .openParen
      else if s.head? = some '>' then .tagEnd
      else .selfClose
  | .opened .. => if s.head? = some '<' then .closeStart else .text
  | .inner .. => .closeStart
  | .closeName .. => .tagEnd

/-- Scanning that leaves all of a text has taken nothing. -/
theorem Scans.eq_nil_of_self {s : List Char} {ls : List Lexeme} (h : Scans s ls s) :
    ls = [] := by
  have hlength : ∀ {s rest : List Char} {ls : List Lexeme}, Scans s ls rest →
      rest.length + ls.length ≤ s.length := by
    intro s rest ls h
    induction h with
    | nil s => simp
    | cons hmatch _ ih =>
      have hlt := match?_length_lt hmatch
      rw [List.length_cons]
      omega
  have hle := hlength h
  exact List.length_eq_zero_iff.mp (by omega)

namespace Terminal

/-- The letters at the front of a text are one word. -/
theorem word_unique {v w u r : List Char} {c : Char} (hv : ∀ d ∈ v, d.isAlpha = true)
    (hw : ∀ d ∈ w, d.isAlpha = true) (hc : c.isAlpha = false)
    (hr : ∀ d ∈ r.head?, d.isAlpha = false) (h : v ++ c :: u = w ++ r) :
    v = w ∧ c :: u = r := by
  have hleft := span_eq_iff.mpr ⟨hv, (by simpa using hc : ∀ d ∈ (c :: u).head?, _), rfl⟩
  have hright := span_eq_iff.mpr ⟨hw, hr, h⟩
  exact Prod.mk.inj (hleft.symm.trans hright)

/-- No call begins with `<`. -/
theorem not_startsCall_lt (s : List Char) : startsCall ('<' :: s) = false := by
  rw [Bool.eq_false_iff]
  intro hstarts
  obtain ⟨h, hh, hbegins⟩ := startsCall_iff.mp hstarts
  have hlt := lt_notMem_of_mem_callHeads h hh
  cases h with
  | nil => exact absurd hh (by decide)
  | cons c h =>
    obtain ⟨rfl, -⟩ := List.cons_prefix_cons.mp hbegins
    exact hlt List.mem_cons_self

/-- A call begins with a function's name, and the name is made of letters. -/
theorem exists_of_startsCall {s : List Char} (h : startsCall s = true) :
    ∃ (f : FunctionName) (r : List Char),
      s = f.chars ++ '(' :: r ∧ ∀ c ∈ f.chars, c.isAlpha = true := by
  obtain ⟨_, hh, r, rfl⟩ := startsCall_iff.mp h
  obtain ⟨f, -, rfl⟩ := List.mem_map.mp hh
  refine ⟨f, r, by simp, ?_⟩
  cases f <;> exact List.all_eq_true.mp rfl

/-- A capital letter is no digit. -/
theorem not_isDigit_of_isUpper {c : Char} (h : c.isUpper = true) : ¬ c.isDigit = true := by
  intro hdigit
  change decide (c.val ≥ 'A'.val ∧ c.val ≤ 'Z'.val) = true at h
  simp only [decide_eq_true_eq, ge_iff_le, UInt32.le_iff_toNat_le] at h
  have hval : c.toNat = c.val.toNat := rfl
  have hletter : 'A'.val.toNat = 65 := rfl
  have hnine := (Char.isDigit_iff_toNat.mp hdigit).2
  have hnine' : '9'.toNat = 57 := rfl
  omega

/-- Digits begin no call. -/
theorem not_startsCall_of_isDigit {c : Char} (h : c.isDigit = true) (s : List Char) :
    startsCall (c :: s) = false := by
  rw [Bool.eq_false_iff]
  intro hstarts
  obtain ⟨f, r, hs, -⟩ := exists_of_startsCall hstarts
  have hc : c = 'E' ∨ c = 'O' ∨ c = 'P' := by
    cases f <;> simp_all [FunctionName.chars]
  rcases hc with rfl | rfl | rfl <;> contradiction

end Terminal

namespace Position

/-! ## What is announced where something new may begin -/

theorem lead_functionName (p : Position) (f : FunctionName) (r : List Char) :
    p.lead (f.chars ++ '(' :: r) = .functionName := by
  have hstarts : startsCall (f.chars ++ '(' :: r) = true := by
    refine startsCall_iff.mpr ⟨f.chars ++ ['('], ?_, r, by simp⟩
    cases f <;> decide
  rw [lead, if_pos hstarts]

theorem lead_ifStart (p : Position) (r : List Char) :
    p.lead ((Lexeme.sign .ifStart).chars ++ r) = .ifStart := by
  simp [lead, literal?, not_startsCall_lt]

theorem lead_elseMark (p : Position) (r : List Char) :
    p.lead ((Lexeme.sign .elseMark).chars ++ r) = .elseMark := by
  simp [lead, literal?, not_startsCall_lt]

theorem lead_ifEnd (p : Position) (r : List Char) :
    p.lead ((Lexeme.sign .ifEnd).chars ++ r) = .ifEnd := by
  simp [lead, literal?, not_startsCall_lt]

/-- A tag is announced by `<` and a name that is no word of a branch. -/
theorem lead_tagStart (p : Position) {w r : List Char} (hw : Admits tagName w)
    (hr : Ends tagName r) : p.lead ('<' :: (w ++ r)) = .tagStart := by
  obtain ⟨⟨⟨c, hc, hupper⟩, hword⟩, hkeyword⟩ := hw
  have hif : ¬ (Lexeme.sign .ifStart).chars <+: '<' :: (w ++ r) := by
    rintro ⟨u, hu⟩
    have hwords : ['I', 'f'] ++ '(' :: u = w ++ r := (List.cons.inj hu).2
    obtain ⟨rfl, -⟩ := word_unique (List.all_eq_true.mp rfl) hword (by decide) hr hwords
    exact hkeyword (by decide)
  have helse : ¬ (Lexeme.sign .elseMark).chars <+: '<' :: (w ++ r) := by
    rintro ⟨u, hu⟩
    have hwords : ['E', 'l', 's', 'e'] ++ '/' :: '>' :: u = w ++ r := (List.cons.inj hu).2
    obtain ⟨rfl, -⟩ := word_unique (List.all_eq_true.mp rfl) hword (by decide) hr hwords
    exact hkeyword (by decide)
  have hend : ¬ (Lexeme.sign .ifEnd).chars <+: '<' :: (w ++ r) := by
    rintro ⟨u, hu⟩
    have hwords : [] ++ '/' :: 'I' :: 'f' :: '>' :: u = w ++ r := (List.cons.inj hu).2
    obtain ⟨rfl, -⟩ := word_unique (List.all_eq_true.mp rfl) hword (by decide) hr hwords
    simp at hc
  rw [lead, if_neg (by simp [not_startsCall_lt]), if_neg hif, if_neg helse, if_neg hend,
    if_pos List.head?_cons]

/-- What does not begin a call or anything with `<` is a word, and its first character
says of which class. -/
theorem lead_of_ne_lt (p : Position) {c : Char} {s : List Char} (hc : c ≠ '<')
    (hstarts : startsCall (c :: s) = false) :
    p.lead (c :: s) =
      if p = part then .text else if c.isDigit = true then .number else .objectName := by
  have hsign (t : Terminal) (v : List Char) (ht : (Lexeme.sign t).chars = '<' :: v) :
      ¬ (Lexeme.sign t).chars <+: c :: s := by
    rw [ht]
    intro hbegins
    exact hc (List.cons_prefix_cons.mp hbegins).1.symm
  rw [lead, if_neg (by simp [hstarts]), if_neg (hsign .ifStart _ rfl),
    if_neg (hsign .elseMark _ rfl), if_neg (hsign .ifEnd _ rfl), if_neg (by simpa using hc)]
  rfl

/-- Text is announced by what begins neither a call nor a tag nor a branch. -/
theorem lead_text {w r : List Char} (hw : IsText w) (hr : Ends text r) :
    part.lead (w ++ r) = .text := by
  obtain ⟨hne, hlt, hheads⟩ := hw
  have hstarts : startsCall (w ++ r) = false := by
    rw [Bool.eq_false_iff]
    intro hstarts
    obtain ⟨h, hh, hbegins⟩ := (startsCall_append_iff hne hr).mp hstarts
    exact hheads h hh hbegins.isInfix
  obtain ⟨c, w, rfl⟩ := List.exists_cons_of_ne_nil hne
  have hc : c ≠ '<' := by
    rintro rfl
    exact hlt List.mem_cons_self
  exact (lead_of_ne_lt part hc hstarts).trans (if_pos rfl)

/-- A number is announced by a digit. -/
theorem lead_number {w : List Char} (hw : IsNumeral w) (r : List Char) :
    param.lead (w ++ r) = .number := by
  obtain ⟨hne, hdigits⟩ := hw
  obtain ⟨c, w, rfl⟩ := List.exists_cons_of_ne_nil hne
  have hc : c.isDigit = true := hdigits c List.mem_cons_self
  have hlt : c ≠ '<' := by
    rintro rfl
    contradiction
  refine (lead_of_ne_lt param hlt (not_startsCall_of_isDigit hc (w ++ r))).trans ?_
  rw [if_neg (by decide), if_pos hc]

/-- The name of an object is announced by a letter, if it is no function's name with a
parenthesis behind it. -/
theorem lead_objectName {w r : List Char} {c : Char} (hw : IsCapitalized w)
    (hr : c = ',' ∨ c = ')') : param.lead (w ++ c :: r) = .objectName := by
  obtain ⟨⟨d, hd, hupper⟩, hword⟩ := hw
  have hstarts : startsCall (w ++ c :: r) = false := by
    rw [Bool.eq_false_iff]
    intro hstarts
    obtain ⟨f, u, hs, hf⟩ := exists_of_startsCall hstarts
    have hends : ∀ e ∈ (c :: r).head?, e.isAlpha = false := by
      rcases hr with rfl | rfl <;> simp
    obtain ⟨-, hparen⟩ := word_unique hf hword (by decide) hends hs.symm
    obtain ⟨rfl, -⟩ := List.cons.inj hparen
    rcases hr with hr | hr <;> contradiction
  cases w with
  | nil => simp at hd
  | cons e w =>
    obtain rfl : e = d := Option.some.inj hd
    have hlt : e ≠ '<' := by
      rintro rfl
      contradiction
    refine (lead_of_ne_lt param hlt hstarts).trans ?_
    rw [if_neg (by decide), if_neg (not_isDigit_of_isUpper hupper)]

end Position

namespace Reading

/-- Behind the words of an unfinished part, a completed chain goes on. -/
theorem exists_advances_of_run {r : Reading} {ls : List Lexeme} {read : List Part}
    (hrun : r.run ls = some ⟨.start, .message read⟩) (hpoint : r.point ≠ .start) :
    ∃ l ks r', ls = l :: ks ∧ Advances r l r' := by
  cases ls with
  | nil =>
    obtain rfl := Option.some.inj hrun
    contradiction
  | cons l ks =>
    obtain ⟨r', hadvances, -⟩ := run_cons_eq_some_iff.mp hrun
    exact ⟨l, ks, r', rfl, hadvances⟩

/-- A chain that is completed takes the terminal that the characters ahead announce. -/
theorem kind_eq_lead {r r' : Reading} {l : Lexeme} {ls : List Lexeme} {s rest : List Char}
    {read : List Part} (h : Advances r l r') (hscans : Scans s (l :: ls) rest)
    (hrun : r'.run ls = some ⟨.start, .message read⟩) : l.kind = r.lead s := by
  obtain ⟨mid, ⟨hadmits, hends, rfl⟩, hnext⟩ := Scans.cons_iff.mp hscans
  cases h with
  | text hposition =>
    rw [lead, hposition]
    exact (Position.lead_text hadmits hends).symm
  | number hposition =>
    rw [lead, hposition]
    exact (Position.lead_number hadmits mid).symm
  | @object ctx w hposition =>
    obtain ⟨o, read, outer, rfl⟩ : ∃ o read outer, ctx = .params o read outer := by
      cases ctx <;> simp_all [Context.position]
    obtain ⟨l, ks, _, rfl, hadvances⟩ := exists_advances_of_run hrun (by simp [Context.add])
    obtain ⟨mid, ⟨hadmits', -, rfl⟩, -⟩ := Scans.cons_iff.mp hnext
    rw [lead, hposition]
    cases hadvances with
    | comma =>
      obtain rfl := Option.some.inj hadmits'
      exact (Position.lead_objectName hadmits (.inl rfl)).symm
    | closeParen =>
      obtain rfl := Option.some.inj hadmits'
      exact (Position.lead_objectName hadmits (.inr rfl)).symm
  | @functionName ctx w =>
    obtain ⟨l, ks, _, rfl, hadvances⟩ := exists_advances_of_run hrun (by simp)
    obtain ⟨mid, ⟨hadmits', -, rfl⟩, -⟩ := Scans.cons_iff.mp hnext
    cases hadvances
    obtain ⟨f, rfl⟩ := hadmits
    obtain rfl := Option.some.inj hadmits'
    exact (Position.lead_functionName _ f mid).symm
  | tagStart =>
    obtain rfl := Option.some.inj hadmits
    obtain ⟨l, ks, _, rfl, hadvances⟩ := exists_advances_of_run hrun (by simp)
    obtain ⟨mid, ⟨hadmits', hends', rfl⟩, -⟩ := Scans.cons_iff.mp hnext
    cases hadvances
    exact (Position.lead_tagStart _ hadmits' hends').symm
  | ifStart =>
    obtain rfl := Option.some.inj hadmits
    exact (Position.lead_ifStart _ mid).symm
  | elseMark =>
    obtain rfl := Option.some.inj hadmits
    exact (Position.lead_elseMark _ mid).symm
  | ifEnd =>
    obtain rfl := Option.some.inj hadmits
    exact (Position.lead_ifEnd _ mid).symm
  | @inner ctx n ps w =>
    obtain ⟨hne, hlt, -⟩ := hadmits
    obtain ⟨c, w, rfl⟩ := List.exists_cons_of_ne_nil hne
    have hc : c ≠ '<' := by
      rintro rfl
      exact hlt List.mem_cons_self
    simp [lead, hc]
  | tagName | closeName | conditionEnd | closeInner | pair | openCall => rfl
  | comma | closeParen | openTag | single | opened | singleParams | openedParams | closeEmpty =>
    obtain rfl := Option.some.inj hadmits
    rfl

/-- A text is completed by one chain at most.  What is ahead announces the next terminal,
and the terminal determines its longest match. -/
theorem completed_unique {r : Reading} {s rest : List Char} {ls ks : List Lexeme}
    {read read' : List Part} (hls : Scans s ls rest) (hks : Scans s ks rest)
    (hrun : r.run ls = some ⟨.start, .message read⟩)
    (hrun' : r.run ks = some ⟨.start, .message read'⟩) : ls = ks := by
  induction ls generalizing r s ks with
  | nil =>
    obtain rfl := Scans.nil_iff.mp hls
    exact hks.eq_nil_of_self.symm
  | cons l ls ih =>
    cases ks with
    | nil =>
      obtain rfl := Scans.nil_iff.mp hks
      exact hls.eq_nil_of_self
    | cons k ks =>
      obtain ⟨_, hl, hnext⟩ := run_cons_eq_some_iff.mp hrun
      obtain ⟨_, hk, hnext'⟩ := run_cons_eq_some_iff.mp hrun'
      have hkind : l.kind = k.kind :=
        (kind_eq_lead hl hls hnext).trans (kind_eq_lead hk hks hnext').symm
      obtain ⟨l, w⟩ := l
      obtain ⟨k, v⟩ := k
      obtain rfl : l = k := hkind
      cases hls with
      | cons hmatch hls =>
        cases hks with
        | cons hmatch' hks =>
          obtain ⟨rfl, rfl⟩ := Prod.mk.inj (Option.some.inj (hmatch.symm.trans hmatch'))
          obtain rfl := Option.some.inj
            ((advance_eq_some_iff.mpr hl).symm.trans (advance_eq_some_iff.mpr hk))
          rw [ih hls hks hnext hnext']

end Reading

end LogMarkup
