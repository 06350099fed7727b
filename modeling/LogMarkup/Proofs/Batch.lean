import LogMarkup.Check
import LogMarkup.Proofs.Fault
import LogMarkup.Proofs.Offence

/-!
# Checking many messages

A batch checks one message after the other.  What it finds about a message depends on
this message alone, and the check of each is handed on before the next one is made.  A
single kind of error is no finding and ends the batch: a number of too many digits.

Main results:

- `Markup.isFinding_or_tooLong`: every other error is a finding.
- `Batch.runM_eq`: a batch hands on exactly the checks that it makes, in order.
- `Batch.messages_run`, `Batch.aborted_run_eq_none_iff`: which messages are checked.
- `Catalogue.checkM_eq_forM`: the checks of a catalogue.
-/

namespace LogMarkup

/-! ## Errors of markup -/

/-- Two steps fail when the first does, or else the second. -/
theorem bind_eq_error_iff {ε β γ : Type} {x : Except ε β} {f : β → Except ε γ} {e : ε} :
    (x >>= f) = .error e ↔ x = .error e ∨ ∃ b, x = .ok b ∧ f b = .error e := by
  cases x with
  | error e' => simp [bind, Except.bind]
  | ok b => simp [bind, Except.bind]

/-- An error is turned into what it is turned into. -/
theorem mapError_eq_error_iff {ε ε' β : Type} {x : Except ε β} {f : ε → ε'} {e' : ε'} :
    x.mapError f = .error e' ↔ ∃ e, x = .error e ∧ e' = f e := by
  cases x with
  | error e => simp [Except.mapError, eq_comm]
  | ok b => simp [Except.mapError]

namespace Markup

/-- The error of a markup: it cannot be read, or its message cannot be built, or the nodes
do not reduce. -/
theorem reduce_eq_error_iff {markup : String} {e : MarkupError} :
    reduce markup = .error e ↔
      (∃ r, Concrete.parseLocated markup.toList = .error r ∧ e = .read r) ∨
      (∃ m : List Part, (Concrete.AllWellFormed .part m ∧
        Concrete.listChars m = markup.toList) ∧
        ∃ b, Concrete.buildList (Concrete.locateList Place.start m) = .error b ∧
          e = .build b) ∨
      ∃ message, nodes markup = .ok message ∧
        ∃ r, Node.reduceMessage message = .error r ∧ e = .reduce r := by
  rw [reduce_eq_bind, bind_eq_error_iff]
  simp only [mapError_eq_error_iff]
  rw [nodes, bind_eq_error_iff]
  simp only [mapError_eq_error_iff, mapError_eq_ok_iff, Concrete.parseLocated_eq_ok_iff]
  constructor
  · rintro ((hread | ⟨_, ⟨m, hm, rfl⟩, hbuild⟩) | hreduce)
    · exact .inl hread
    · exact .inr (.inl ⟨m, hm, hbuild⟩)
    · exact .inr (.inr hreduce)
  · rintro (hread | ⟨m, hm, hbuild⟩ | hreduce)
    · exact .inl (.inl hread)
    · exact .inl (.inr ⟨_, ⟨m, hm, rfl⟩, hbuild⟩)
    · exact .inr hreduce

/-- An error of a markup is a finding about it, or it is a number in it that has too many
digits. -/
theorem isFinding_or_tooLong {markup : String} {e : MarkupError}
    (h : reduce markup = .error e) :
    e.isFinding = true ∨ ∃ ds, e = .build (.unreadableNumber ds) ∧ Terminal.IsNumeral ds ∧
      Digits.limit < ds.length ∧ ds <:+: markup.toList := by
  rcases reduce_eq_error_iff.mp h with
    ⟨r, -, rfl⟩ | ⟨m, ⟨hm, hs⟩, b, hbuild, rfl⟩ | ⟨message, hread, r, hreduce, rfl⟩
  · exact .inl rfl
  · have hwalk := Concrete.buildList_endsAtFirst (Concrete.locateList Place.start m)
    rw [hbuild] at hwalk
    obtain ⟨before, v, after, hsites, -, hv⟩ := hwalk
    have hmem : v ∈ Concrete.sitesList (Concrete.locateList Place.start m) := by
      rw [hsites]
      simp
    rcases (hm.locateList Place.start).fault hmem hv with hmark | ⟨ds, rfl, hds⟩
    · left
      cases hv <;> first | rfl | contradiction
    · right
      rw [Concrete.listChars_locateList, hs] at hds
      exact ⟨ds, rfl, hds⟩
  · left
    have hwalk : EndsAtFirst Offends (Node.visitsList message) (Node.reduceMessage message) :=
      Node.reduceList_endsAtFirst [] (by decide) (wellFormed_of_nodes hread)
    rw [hreduce] at hwalk
    obtain ⟨before, v, after, -, -, hv⟩ := hwalk
    cases hv <;> rfl

/-- A call of too many digits is spelled well, but cannot be understood. -/
theorem reduce_call_of_limit_lt (f : FunctionName) {ds : List Char}
    (hds : Terminal.IsNumeral ds) (hlong : Digits.limit < ds.length) :
    reduce (String.ofList (f.chars ++ '(' :: (ds ++ [')']))) =
      .error (.build (.unreadableNumber ds)) := by
  rw [reduce_eq_error_iff]
  refine .inr (.inl ⟨[.call ⟨f.chars, ()⟩ [.number ⟨ds, ()⟩]], ⟨?_, ?_⟩,
    .unreadableNumber ds, ?_, rfl⟩)
  · have hnumber : Concrete.AllWellFormed .param [.number (⟨ds, ()⟩ : Word)] :=
      ⟨rfl, hds, by simp [Concrete.isText], trivial⟩
    exact ⟨rfl, ⟨⟨f, rfl⟩, by simp, hnumber⟩, by simp [Concrete.isText], trivial⟩
  · simp [Concrete.listChars, Concrete.chars, Concrete.paramChars, Concrete.moreChars]
  · have hnumber : ∀ p : Place, Concrete.buildList [.number ⟨ds, p⟩] =
        .error (.unreadableNumber ds) := by
      intro p
      rw [Concrete.buildList_cons_eq, Concrete.build_number hds.1 hds.2,
        if_neg (Nat.not_le_of_lt hlong)]
      rfl
    have hname : ∀ p : Place, Concrete.functionName ⟨f.chars, p⟩ = .ok f :=
      fun p => Concrete.functionName_eq_ok_iff.mpr rfl
    have hcall : ∀ p q : Place, (Concrete.call ⟨f.chars, p⟩ [.number ⟨ds, q⟩]).build =
        .error (.unreadableNumber ds) := by
      intro p q
      rw [Concrete.build_call_eq, hname, hnumber]
      rfl
    rw [Concrete.locateList, Concrete.buildList_cons_eq]
    exact bind_eq_error_iff.mpr (.inl (hcall _ _))

end Markup

/-! ## One check -/

namespace Check

/-- What was checked: a markup, and where it comes from. -/
def source (c : Check) : String × Labels := (c.markup, c.labels)

/-- A check notes the error of its markup, and nothing if there is none. -/
theorem error_of_of_eq_ok {markup : String} {labels : Labels} {c : Check}
    (h : of markup labels = .ok c) :
    c.source = (markup, labels) ∧
      ∀ e, c.error = some e ↔ Markup.reduce c.markup = .error e := by
  unfold of at h
  cases hreduce : Markup.reduce markup with
  | ok r =>
    rw [hreduce] at h
    obtain rfl := Except.ok.inj h
    simp [source, hreduce]
  | error e =>
    rw [hreduce] at h
    dsimp only at h
    split at h
    next =>
      obtain rfl := Except.ok.inj h
      simp [source, hreduce]
    next => contradiction

/-- No check is made of a markup exactly if a number in it has too many digits. -/
theorem of_eq_error_iff {markup : String} {labels : Labels} {e : MarkupError} :
    of markup labels = .error e ↔
      Markup.reduce markup = .error e ∧ ∃ ds, e = .build (.unreadableNumber ds) := by
  unfold of
  cases hreduce : Markup.reduce markup with
  | ok r => simp
  | error e' =>
    rcases Markup.isFinding_or_tooLong hreduce with hfinding | ⟨ds, rfl, -⟩
    · simp only [hfinding, if_true, reduceCtorEq, false_iff, not_and]
      rintro ⟨rfl⟩ ⟨ds, rfl⟩
      contradiction
    · simp only [MarkupError.isFinding, Bool.false_eq_true, if_false]
      constructor
      · rintro ⟨rfl⟩
        exact ⟨rfl, ds, rfl⟩
      · rintro ⟨h, -⟩
        rw [Except.error.inj h]

/-- A check that notes the error of its markup finds none exactly when the markup
reduces. -/
theorem isOk_iff_of_error {c : Check}
    (h : ∀ e, c.error = some e ↔ Markup.reduce c.markup = .error e) :
    c.isOk = true ↔ ∃ r, Markup.reduce c.markup = .ok r := by
  unfold isOk
  cases hreduce : Markup.reduce c.markup with
  | ok r =>
    have hnone : c.error = none := by
      rw [Option.eq_none_iff_forall_ne_some]
      intro e he
      rw [h e, hreduce] at he
      contradiction
    simp [hnone]
  | error e =>
    have hsome := (h e).mpr hreduce
    simp [hsome]

end Check

/-! ## The run of a batch -/

namespace Batch

@[simp] theorem run_nil : run [] = ⟨[], none⟩ := rfl

/-- A check that is made comes first, and the batch goes on. -/
theorem run_cons_of_ok {markup : String} {labels : Labels} {c : Check}
    (h : Check.of markup labels = .ok c) (rest : List (String × Labels)) :
    run ((markup, labels) :: rest) = ⟨c :: (run rest).checks, (run rest).aborted⟩ := by
  rw [run, runM_cons, h]
  rfl

/-- A check that cannot be made ends the batch. -/
theorem run_cons_of_error {markup : String} {labels : Labels} {e : MarkupError}
    (h : Check.of markup labels = .error e) (rest : List (String × Labels)) :
    run ((markup, labels) :: rest) = ⟨[], some e⟩ := by
  rw [run, runM_cons, h]
  rfl

/-- A batch hands on exactly the checks that it makes, in this order. -/
theorem runM_eq {m : Type → Type} [Monad m] [LawfulMonad m] (onChecked : Check → m Unit)
    (messages : List (String × Labels)) :
    runM onChecked messages = (do
      (run messages).checks.forM onChecked
      return run messages) := by
  induction messages with
  | nil => simp [runM_nil]
  | cons message rest ih =>
    obtain ⟨markup, labels⟩ := message
    cases hcheck : Check.of markup labels with
    | ok c =>
      rw [run_cons_of_ok hcheck]
      simp [runM_cons, hcheck, ih]
    | error e =>
      rw [run_cons_of_error hcheck]
      simp [runM_cons, hcheck]

/-- The checks are those of the messages up to the one that ends the batch. -/
theorem messages_run (messages : List (String × Labels)) :
    match (run messages).aborted with
    | none => (run messages).checks.map Check.source = messages
    | some e => ∃ markup labels later,
        messages = (run messages).checks.map Check.source ++ (markup, labels) :: later ∧
          Check.of markup labels = .error e := by
  induction messages with
  | nil => rfl
  | cons message rest ih =>
    obtain ⟨markup, labels⟩ := message
    cases hcheck : Check.of markup labels with
    | error e =>
      rw [run_cons_of_error hcheck]
      exact ⟨markup, labels, rest, rfl, hcheck⟩
    | ok c =>
      rw [run_cons_of_ok hcheck]
      dsimp only
      have hsource := (Check.error_of_of_eq_ok hcheck).1
      cases haborted : (run rest).aborted with
      | none =>
        rw [haborted] at ih
        dsimp only at ih ⊢
        rw [List.map_cons, hsource, ih]
      | some e =>
        rw [haborted] at ih
        obtain ⟨markup', labels', later, hrest, herror⟩ := ih
        refine ⟨markup', labels', later, ?_, herror⟩
        rw [List.map_cons, hsource, List.cons_append, ← hrest]

/-- Every check notes the error of its own markup, whatever else is checked. -/
theorem error_of_mem_run {messages : List (String × Labels)} {c : Check}
    (hc : c ∈ (run messages).checks) (e : MarkupError) :
    c.error = some e ↔ Markup.reduce c.markup = .error e := by
  induction messages with
  | nil => simp at hc
  | cons message rest ih =>
    obtain ⟨markup, labels⟩ := message
    cases hcheck : Check.of markup labels with
    | error e' =>
      rw [run_cons_of_error hcheck] at hc
      simp at hc
    | ok c' =>
      rw [run_cons_of_ok hcheck] at hc
      rcases List.mem_cons.mp hc with rfl | hc
      · exact (Check.error_of_of_eq_ok hcheck).2 e
      · exact ih hc

/-- A batch comes to its end exactly if no message has a number of too many digits. -/
theorem aborted_run_eq_none_iff {messages : List (String × Labels)} :
    (run messages).aborted = none ↔
      ∀ p ∈ messages, ∀ ds, Markup.reduce p.1 ≠ .error (.build (.unreadableNumber ds)) := by
  induction messages with
  | nil => simp
  | cons message rest ih =>
    obtain ⟨markup, labels⟩ := message
    rw [List.forall_mem_cons]
    cases hcheck : Check.of markup labels with
    | error e =>
      obtain ⟨hreduce, ds, rfl⟩ := Check.of_eq_error_iff.mp hcheck
      rw [run_cons_of_error hcheck]
      constructor
      · intro h
        contradiction
      · rintro ⟨h, -⟩
        exact absurd hreduce (h ds)
    | ok c =>
      rw [run_cons_of_ok hcheck, ih]
      refine ⟨fun hrest => ⟨?_, hrest⟩, fun h => h.2⟩
      intro ds hreduce
      have herror : Check.of markup labels = .error (.build (.unreadableNumber ds)) :=
        Check.of_eq_error_iff.mpr ⟨hreduce, ds, rfl⟩
      rw [hcheck] at herror
      contradiction

end Batch

/-! ## The checks of a catalogue -/

/-- The messages of a catalogue are those of its emotes in each language, for a target and
without one. -/
theorem Catalogue.mem_messages_iff {k : Catalogue} {p : String × Labels} :
    p ∈ k.messages ↔ ∃ e ∈ k.emotes, ∃ l targeted,
      p = (e.markup l targeted, ⟨some e.name, some l, some targeted⟩) := by
  simp only [messages, Emote.messages, List.mem_flatMap, List.mem_map]
  constructor
  · rintro ⟨e, he, l, -, targeted, -, rfl⟩
    exact ⟨e, he, l, targeted, rfl⟩
  · rintro ⟨e, he, l, targeted, rfl⟩
    exact ⟨e, he, l, by cases l <;> decide, targeted, by cases targeted <;> decide, rfl⟩

/-- The checks of the messages of all emotes.  Whatever is done after a check is done
after exactly the checks that are made, in their order.  Each of them notes the error of
its own markup.  The messages of all listed emotes are checked, English before Japanese
and targeted before untargeted, exactly if none of them has a number of too many digits;
otherwise the first such number ends the checking. -/
theorem Catalogue.checkM_eq_forM (emotes : List Emote) {m : Type → Type} [Monad m]
    [LawfulMonad m] (onChecked : Check → m Unit) :
    (ofEmotes emotes).checkM onChecked = (do
      (ofEmotes emotes).check.checks.forM onChecked
      return (ofEmotes emotes).check) ∧
    (∀ c ∈ (ofEmotes emotes).check.checks,
      (c.isOk = true ↔ ∃ r, Markup.reduce c.markup = .ok r) ∧
      ∀ e, c.error = some e ↔ Markup.reduce c.markup = .error e) ∧
    ((ofEmotes emotes).check.aborted = none ↔
      ∀ e ∈ (ofEmotes emotes).emotes, ∀ l targeted ds,
        Markup.reduce (e.markup l targeted) ≠ .error (.build (.unreadableNumber ds))) ∧
    ((ofEmotes emotes).check.aborted = none →
      (ofEmotes emotes).check.checks.map (fun c => (c.markup, c.labels)) =
        (ofEmotes emotes).emotes.flatMap fun e =>
          [(e.english.targeted, ⟨some e.name, some .english, some true⟩),
            (e.english.untargeted, ⟨some e.name, some .english, some false⟩),
            (e.japanese.targeted, ⟨some e.name, some .japanese, some true⟩),
            (e.japanese.untargeted, ⟨some e.name, some .japanese, some false⟩)]) ∧
    ∀ error, (ofEmotes emotes).check.aborted = some error → ∃ markup labels later ds,
      (ofEmotes emotes).messages =
        (ofEmotes emotes).check.checks.map (fun c => (c.markup, c.labels)) ++
          (markup, labels) :: later ∧
      Markup.reduce markup = .error error ∧ error = .build (.unreadableNumber ds) ∧
      (∀ d ∈ ds, d.isDigit = true) ∧ 4300 < ds.length ∧ ds <:+: markup.toList := by
  have hmessages := Batch.messages_run (ofEmotes emotes).messages
  refine ⟨Batch.runM_eq onChecked _, ?_, ?_, ?_, ?_⟩
  · intro c hc
    have herror := Batch.error_of_mem_run hc
    exact ⟨Check.isOk_iff_of_error herror, herror⟩
  · rw [Catalogue.check, Batch.aborted_run_eq_none_iff]
    constructor
    · intro h e he l targeted
      have hnumber := h _ (mem_messages_iff.mpr ⟨e, he, l, targeted, rfl⟩)
      dsimp only at hnumber
      exact hnumber
    · intro h p hp
      obtain ⟨e, he, l, targeted, rfl⟩ := mem_messages_iff.mp hp
      dsimp only
      exact h e he l targeted
  · intro haborted
    rw [← Catalogue.check, haborted] at hmessages
    exact hmessages
  · intro error haborted
    rw [← Catalogue.check, haborted] at hmessages
    obtain ⟨markup, labels, later, hsplit, herror⟩ := hmessages
    obtain ⟨hreduce, ds, rfl⟩ := Check.of_eq_error_iff.mp herror
    rcases Markup.isFinding_or_tooLong hreduce with hfinding | ⟨ds', hds, hnumeral, hlong⟩
    · contradiction
    · obtain rfl : ds = ds' := by simpa using hds
      exact ⟨markup, labels, later, ds, hsplit, hreduce, rfl, hnumeral.2, hlong⟩

/-- The theorem at an emote of which one message compares nothing.  After each check is
noted whether it found no error. -/
theorem Catalogue.checkM_eq_forM_wave :
    (((ofEmotes [⟨1, "wave", ["/wave"], ⟨"Equal(1)", "Waves."⟩, ⟨"Waves.", "Waves."⟩⟩]).checkM
      fun c => modify (· ++ [c.isOk]) : StateM (List Bool) Batch).run []).2 =
        [false, true, true, true] := by
  have hequal : Markup.reduce "Equal(1)" =
      .error (.reduce (.danglingFunction (.call .equal [.number 1]))) := by
    have hmessage : Node.AllWellFormed .part [.call .equal [.number 1]] := by decide
    rw [Markup.reduce_of_listToMarkup_eq hmessage (by rfl)]
    rfl
  have hwaves : Markup.reduce "Waves." = .ok [⟨[], .static "Waves."⟩] :=
    Markup.reduce_of_isText (by decide)
  have hmessages : ∃ a b c d, (ofEmotes [⟨1, "wave", ["/wave"], ⟨"Equal(1)", "Waves."⟩,
      ⟨"Waves.", "Waves."⟩⟩]).messages =
        [("Equal(1)", a), ("Waves.", b), ("Waves.", c), ("Waves.", d)] := ⟨_, _, _, _, rfl⟩
  obtain ⟨a, b, c, d, hmessages⟩ := hmessages
  rw [(checkM_eq_forM _ _).1, Catalogue.check, hmessages]
  simp [Batch.run, Batch.runM, Check.of, hequal, hwaves, Check.isOk, MarkupError.isFinding]
  rfl

/-- The checking is not bound to come to its end: of this emote nothing is checked, since
the first of its markups has a number of 4301 digits. -/
theorem Catalogue.check_ends_at_number :
    (ofEmotes [⟨1, "broken", ["/broken"],
      ⟨String.ofList (FunctionName.objectParameter.chars ++
        '(' :: (List.replicate 4301 '1' ++ [')'])), "Fine."⟩,
      ⟨"Fine.", "Fine."⟩⟩]).check =
        ⟨[], some (.build (.unreadableNumber (List.replicate 4301 '1')))⟩ := by
  have hmessages : ∀ markup, ∃ labels later,
      (ofEmotes [⟨1, "broken", ["/broken"], ⟨markup, "Fine."⟩, ⟨"Fine.", "Fine."⟩⟩]).messages =
        (markup, labels) :: later := fun markup => ⟨_, _, rfl⟩
  have hnumeral : Terminal.IsNumeral (List.replicate 4301 '1') :=
    ⟨by rw [Ne, List.replicate_eq_nil_iff]; decide,
      fun c hc => by rw [List.eq_of_mem_replicate hc]; rfl⟩
  have hreduce := Markup.reduce_call_of_limit_lt .objectParameter hnumeral
    (by rw [List.length_replicate]; decide)
  obtain ⟨labels, later, hcons⟩ := hmessages (String.ofList
    (FunctionName.objectParameter.chars ++ '(' :: (List.replicate 4301 '1' ++ [')'])))
  have hcheck : Check.of _ labels = .error _ := Check.of_eq_error_iff.mpr ⟨hreduce, _, rfl⟩
  rw [Catalogue.check, hcons, Batch.run_cons_of_error hcheck]

end LogMarkup
