import Mathlib.Data.List.Basic
import PageWatch.Alert.Text
import PageWatch.Proofs.Complete

/-!
# Letters

Mail is one text: header lines, an empty line, and the message. Every line of the header ends with
CR LF, and nothing in a header is escaped. So what a letter says to whoever opens it depends on
where its first empty line is, and on the line ends in front of that.

* `Unbroken`: no line end inside;
* `cutAtEmptyLine_lines` and `splitLines_lines`: **unbroken lines that are not empty come back as
  they were written**, with the message behind them;
* `unbroken_of_mem_splitLines`: no line that is read has a line end, so a field that has one cannot
  come back (`openLetter_letter_iff`).

Main statement: `letter_opens_iff`. A check of a watch does not look for line ends
(`header_forged`).
-/

namespace PageWatch

/-! ## 1. Lines -/

/-- There is no line end in the text. -/
def Unbroken (cs : List Char) : Prop := ¬ ['\r', '\n'] <:+: cs

/-- The lines of a text, parted by CR LF. -/
def splitLines : List Char → List (List Char)
  | [] => [[]]
  | '\r' :: '\n' :: rest => [] :: splitLines rest
  | c :: rest => (splitLines rest).modifyHead (c :: ·)

/-- Cuts a text at its first CR LF CR LF; `none` if it has none. -/
def cutAtEmptyLine : List Char → Option (List Char × List Char)
  | [] => none
  | '\r' :: '\n' :: '\r' :: '\n' :: rest => some ([], rest)
  | c :: rest => (cutAtEmptyLine rest).map fun (header, message) => (c :: header, message)

section Lines

variable {c : Char} {line line' rest message : List Char} {lines : List (List Char)}

/-- A text without a CR or without an LF is unbroken. -/
theorem unbroken_of_notMem (hc : c ∈ ['\r', '\n']) (h : c ∉ line) : Unbroken line := by
  intro hpiece
  exact h (hpiece.subset hc)

theorem unbroken_nil : Unbroken [] := unbroken_of_notMem List.mem_cons_self List.not_mem_nil

theorem unbroken_cons : Unbroken (c :: line) ↔ ¬ ['\r', '\n'] <+: c :: line ∧ Unbroken line := by
  simp [Unbroken, List.infix_cons_iff]

/-- In front of an unbroken text there may be any text without a CR. -/
theorem unbroken_append {cs : List Char} (h : '\r' ∉ cs) :
    Unbroken (cs ++ line) ↔ Unbroken line := by
  induction cs with
  | nil => rfl
  | cons c cs ih =>
    obtain ⟨hc, hcs⟩ := not_or.mp (mt List.mem_cons.mpr h)
    rw [List.cons_append, unbroken_cons, ih hcs]
    simp [List.cons_prefix_cons, hc]

/-- The line end behind an unbroken line does not begin inside the line. -/
theorem not_prefix_of_unbroken (h : Unbroken (c :: line)) :
    ¬ ['\r', '\n'] <+: c :: (line ++ '\r' :: rest) := by
  have hline := (unbroken_cons.mp h).1
  cases line with
  | nil => simp [List.cons_prefix_cons]
  | cons d line => simpa [List.cons_prefix_cons] using hline

theorem splitLines_cons (h : ¬ ['\r', '\n'] <+: c :: rest) :
    splitLines (c :: rest) = (splitLines rest).modifyHead (c :: ·) := by
  rw [splitLines]
  rintro rest rfl rfl
  exact h ⟨rest, rfl⟩

theorem cutAtEmptyLine_cons (h : ¬ ['\r', '\n', '\r', '\n'] <+: c :: rest) :
    cutAtEmptyLine (c :: rest) =
      (cutAtEmptyLine rest).map fun (header, message) => (c :: header, message) := by
  rw [cutAtEmptyLine]
  rintro rest rfl rfl
  exact h ⟨rest, rfl⟩

/-- The first line is read up to its line end. -/
theorem splitLines_append (h : Unbroken line) (rest : List Char) :
    splitLines (line ++ '\r' :: '\n' :: rest) = line :: splitLines rest := by
  induction line with
  | nil => rfl
  | cons c line ih =>
    rw [List.cons_append, splitLines_cons (not_prefix_of_unbroken h), ih (unbroken_cons.mp h).2]
    rfl

theorem splitLines_of_unbroken (h : Unbroken line) : splitLines line = [line] := by
  induction line with
  | nil => rfl
  | cons c line ih =>
    rw [splitLines_cons (unbroken_cons.mp h).1, ih (unbroken_cons.mp h).2]
    rfl

/-- The first empty line does not begin inside an unbroken line. -/
theorem cutAtEmptyLine_append (h : Unbroken line) (rest : List Char) :
    cutAtEmptyLine (line ++ '\r' :: '\n' :: rest) =
      (cutAtEmptyLine ('\r' :: '\n' :: rest)).map fun (header, message) =>
        (line ++ header, message) := by
  induction line with
  | nil => simp
  | cons c line ih =>
    have hprefix : ¬ ['\r', '\n', '\r', '\n'] <+: c :: (line ++ '\r' :: '\n' :: rest) := by
      intro hempty
      exact not_prefix_of_unbroken h ((List.prefix_append ['\r', '\n'] ['\r', '\n']).trans hempty)
    rw [List.cons_append, cutAtEmptyLine_cons hprefix, ih (unbroken_cons.mp h).2, Option.map_map]
    rfl

/-- A line end in front of a line that is not empty belongs to the header. -/
theorem cutAtEmptyLine_lineEnd (h : ¬ ['\r', '\n'] <+: rest) :
    cutAtEmptyLine ('\r' :: '\n' :: rest) =
      (cutAtEmptyLine rest).map fun (header, message) => ('\r' :: '\n' :: header, message) := by
  have hcr : ¬ ['\r', '\n', '\r', '\n'] <+: '\r' :: '\n' :: rest := by
    simpa [List.cons_prefix_cons] using h
  have hlf : ¬ ['\r', '\n', '\r', '\n'] <+: '\n' :: rest := by simp [List.cons_prefix_cons]
  rw [cutAtEmptyLine_cons hcr, cutAtEmptyLine_cons hlf, Option.map_map]
  rfl

theorem intercalate_lineEnd :
    ['\r', '\n'].intercalate (line :: line' :: lines) =
      line ++ '\r' :: '\n' :: ['\r', '\n'].intercalate (line' :: lines) := by
  rw [List.intercalate_cons_cons, List.append_assoc]
  rfl

/-- Behind its first line a header goes on with a line end. -/
theorem exists_intercalate_append (line : List Char) (lines : List (List Char))
    (rest : List Char) :
    ∃ more, ['\r', '\n'].intercalate (line :: lines) ++ '\r' :: rest = line ++ '\r' :: more := by
  cases lines with
  | nil =>
    rw [List.intercalate_singleton]
    exact ⟨rest, rfl⟩
  | cons line' lines =>
    rw [intercalate_lineEnd, List.append_assoc]
    exact ⟨_, rfl⟩

/-- **Unbroken lines are read as they were joined.** -/
theorem splitLines_lines (hne : lines ≠ []) (h : ∀ line ∈ lines, Unbroken line) :
    splitLines (['\r', '\n'].intercalate lines) = lines := by
  induction lines with
  | nil => exact absurd rfl hne
  | cons line lines ih =>
    obtain ⟨hline, hlines⟩ := List.forall_mem_cons.mp h
    cases lines with
    | nil => rw [List.intercalate_singleton, splitLines_of_unbroken hline]
    | cons line' lines =>
      rw [intercalate_lineEnd, splitLines_append hline, ih (List.cons_ne_nil _ _) hlines]

/-- **A header of unbroken lines that are not empty ends at the empty line behind it**, whatever the
    message is. -/
theorem cutAtEmptyLine_lines (hne : lines ≠ []) (h : ∀ line ∈ lines, line ≠ [] ∧ Unbroken line) :
    cutAtEmptyLine (['\r', '\n'].intercalate lines ++ '\r' :: '\n' :: '\r' :: '\n' :: message) =
      some (['\r', '\n'].intercalate lines, message) := by
  induction lines with
  | nil => exact absurd rfl hne
  | cons line lines ih =>
    obtain ⟨⟨-, hline⟩, hlines⟩ := List.forall_mem_cons.mp h
    cases lines with
    | nil =>
      rw [List.intercalate_singleton, cutAtEmptyLine_append hline, cutAtEmptyLine]
      show some (line ++ [], message) = _
      rw [List.append_nil]
    | cons line' lines =>
      -- The next line is not empty, so that no empty line begins at the end of this one.
      have hprefix : ¬ ['\r', '\n'] <+: ['\r', '\n'].intercalate (line' :: lines) ++
          '\r' :: '\n' :: '\r' :: '\n' :: message := by
        obtain ⟨hne', hline'⟩ := (List.forall_mem_cons.mp hlines).1
        obtain ⟨more, hmore⟩ := exists_intercalate_append line' lines
          ('\n' :: '\r' :: '\n' :: message)
        obtain ⟨c, cs, rfl⟩ := List.exists_cons_of_ne_nil hne'
        rw [hmore]
        exact not_prefix_of_unbroken hline'
      rw [intercalate_lineEnd, List.append_assoc, List.cons_append, List.cons_append,
        cutAtEmptyLine_append hline, cutAtEmptyLine_lineEnd hprefix,
        ih (List.cons_ne_nil _ _) hlines]
      rfl

/-- The lines of a text begin with a piece of its beginning. -/
theorem exists_splitLines (cs : List Char) :
    ∃ line lines, splitLines cs = line :: lines ∧ line <+: cs := by
  fun_induction splitLines cs with
  | case1 => exact ⟨[], [], rfl, List.prefix_rfl⟩
  | case2 rest ih => exact ⟨[], splitLines rest, rfl, List.nil_prefix⟩
  | case3 c rest h ih =>
    obtain ⟨line, lines, hlines, hline⟩ := ih
    refine ⟨c :: line, lines, ?_, List.cons_prefix_cons.mpr ⟨rfl, hline⟩⟩
    rw [hlines]
    rfl

/-- **A line that is read has no line end inside.** -/
theorem unbroken_of_mem_splitLines (cs : List Char) : ∀ line ∈ splitLines cs, Unbroken line := by
  fun_induction splitLines cs with
  | case1 => exact List.forall_mem_singleton.mpr unbroken_nil
  | case2 rest ih => exact List.forall_mem_cons.mpr ⟨unbroken_nil, ih⟩
  | case3 c rest h ih =>
    obtain ⟨line, lines, hlines, hline⟩ := exists_splitLines rest
    rw [hlines] at ih ⊢
    obtain ⟨hfirst, hmore⟩ := List.forall_mem_cons.mp ih
    refine List.forall_mem_cons.mpr ⟨unbroken_cons.mpr ⟨?_, hfirst⟩, hmore⟩
    intro hprefix
    obtain ⟨more, hmore⟩ := hprefix.trans (List.cons_prefix_cons.mpr ⟨rfl, hline⟩)
    obtain ⟨rfl, hrest⟩ := List.cons.inj hmore
    exact h more rfl hrest.symm

end Lines

/-! ## 2. Letters -/

/-- **A letter, opened**: the lines of its header, and its message. -/
def openLetter (text : String) : Option (List String × String) :=
  (cutAtEmptyLine text.toList).map fun (header, message) =>
    ((splitLines header).map String.ofList, String.ofList message)

section Letters

variable {lines : List String} {text message : String}

/-- A letter of lines that are not empty is opened as it was written. -/
theorem openLetter_lines (hne : lines ≠ []) (h : ∀ line ∈ lines, line ≠ "" ∧ Unbroken line.toList) :
    openLetter ("\r\n".intercalate lines ++ "\r\n\r\n" ++ message) = some (lines, message) := by
  have hne' : lines.map String.toList ≠ [] := by simpa using hne
  have hlines : ∀ line ∈ lines.map String.toList, line ≠ [] ∧ Unbroken line := by
    rw [List.forall_mem_map]
    intro line hline
    obtain ⟨hsome, hunbroken⟩ := h line hline
    exact ⟨fun hnil => hsome (String.toList_eq_nil_iff.mp hnil), hunbroken⟩
  have htext : ("\r\n".intercalate lines ++ "\r\n\r\n" ++ message).toList =
      ['\r', '\n'].intercalate (lines.map String.toList) ++
        '\r' :: '\n' :: '\r' :: '\n' :: message.toList := by
    simp [String.toList_intercalate]
  have hheader := splitLines_lines hne' fun line hline => (hlines line hline).2
  rw [openLetter, htext, cutAtEmptyLine_lines hne' hlines, Option.map_some]
  dsimp only
  rw [hheader]
  simp

/-- No line of a header that is opened has a line end. -/
theorem unbroken_of_openLetter (h : openLetter text = some (lines, message)) :
    ∀ line ∈ lines, Unbroken line.toList := by
  obtain ⟨⟨header, rest⟩, -, hlines⟩ := Option.map_eq_some_iff.mp h
  obtain ⟨rfl, -⟩ := Prod.mk.inj hlines
  rw [List.forall_mem_map]
  intro line hline
  rw [String.toList_ofList]
  exact unbroken_of_mem_splitLines header line hline

end Letters

/-! ## 3. Alerts by mail -/

/-- What a line of a header says behind the name of its field. -/
def fieldValue? (name line : String) : Option String :=
  (line.toList.dropPrefix? name.toList).map String.ofList

/-- **A letter, read back**: its recipient, its subject and its message. -/
def readLetter? (text : String) : Option (String × String × String) :=
  match openLetter text with
  | some ([line, line'], message) =>
    match fieldValue? "To: " line, fieldValue? "Subject: " line' with
    | some recipient, some subject => some (recipient, subject, message)
    | _, _ => none
  | _ => none

theorem fieldValue?_eq_some_iff {name line value : String} :
    fieldValue? name line = some value ↔ line = name ++ value := by
  rw [fieldValue?, Option.map_eq_some_iff]
  constructor
  · rintro ⟨rest, hrest, rfl⟩
    obtain ⟨first, hline, hname⟩ := List.dropPrefix?_eq_some_iff.mp hrest
    rw [← String.toList_inj, String.toList_append, String.toList_ofList, hline, eq_of_beq hname]
  · rintro rfl
    refine ⟨value.toList, ?_, String.ofList_toList⟩
    rw [String.toList_append]
    exact List.dropPrefix?_append_of_beq value.toList BEq.rfl

/-- **What is read back is what the two lines of the header say.** -/
theorem readLetter?_eq_some_iff {text recipient subject message : String} :
    readLetter? text = some (recipient, subject, message) ↔
      openLetter text = some (["To: " ++ recipient, "Subject: " ++ subject], message) := by
  constructor
  · intro h
    unfold readLetter? at h
    split at h
    · next line line' message' hopen =>
      split at h
      · next recipient' subject' hrecipient hsubject =>
        cases h
        rw [hopen, fieldValue?_eq_some_iff.mp hrecipient, fieldValue?_eq_some_iff.mp hsubject]
      · cases h
    · cases h
  · intro h
    rw [readLetter?, h]
    dsimp only
    rw [fieldValue?_eq_some_iff.mpr rfl, fieldValue?_eq_some_iff.mpr rfl]

section Mail

variable {w w' : Watch} {a b : MailAccount} {message : String}

theorem letter_eq (a : MailAccount) (message : String) :
    a.letter message =
      "\r\n".intercalate ["To: " ++ a.recipient, "Subject: " ++ a.subject] ++ "\r\n\r\n" ++
        message := by
  rw [MailAccount.letter, ← String.toList_inj]
  simp

/-- The header of a letter comes back if and only if its two fields are unbroken. -/
theorem openLetter_letter_iff :
    openLetter (a.letter message) =
        some (["To: " ++ a.recipient, "Subject: " ++ a.subject], message) ↔
      Unbroken a.recipient.toList ∧ Unbroken a.subject.toList := by
  have hto : Unbroken ("To: " ++ a.recipient).toList ↔ Unbroken a.recipient.toList := by
    rw [String.toList_append]
    exact unbroken_append (by decide)
  have hsubject : Unbroken ("Subject: " ++ a.subject).toList ↔ Unbroken a.subject.toList := by
    rw [String.toList_append]
    exact unbroken_append (by decide)
  constructor
  · intro h
    have hlines := unbroken_of_openLetter h
    exact ⟨hto.mp (hlines _ (by simp)), hsubject.mp (hlines _ (by simp))⟩
  · rintro ⟨hrecipient, hsubj⟩
    rw [letter_eq]
    refine openLetter_lines (List.cons_ne_nil _ _) ?_
    rw [List.forall_mem_cons, List.forall_mem_singleton]
    exact ⟨⟨by simp, hto.mpr hrecipient⟩, by simp, hsubject.mpr hsubj⟩

/-- Mail of a watch that has passed is complete, and its defaults are filled in. -/
theorem mail_of_checked (hw : w.check = (.ok (), w')) (hb : w'.channels.email = some b) :
    b.recipient ≠ "" ∧ b.subject ≠ "" := by
  have hmail : w.CompleteToMail :=
    (check_eq_ok_iff.mp (congrArg Prod.fst hw)).toCompleteToMail
  rw [Watch.check_of_completeToMail hmail] at hw
  obtain ⟨-, rfl⟩ := Prod.mk.inj hw
  obtain ⟨a, ha, rfl⟩ := Option.map_eq_some_iff.mp hb
  refine ⟨(hmail.mail a ha).recipient, ?_⟩
  unfold MailAccount.withDefaults
  dsimp only
  split
  · decide
  · next h => simpa using h

end Mail

/-- **Mail of a watch that has passed says what it should if its two fields are unbroken, and only
    then.** Neither field is empty. If neither the recipient nor the subject has a CR LF in it, the
    text cut at its first CR LF CR LF is the message on the right and the two lines of the header
    on the left, whatever the message is, and recipient, subject and message can be read back. If
    one of them has, neither is ever so. -/
theorem letter_opens_iff {w w' : Watch} {b : MailAccount} (hw : w.check = (.ok (), w'))
    (hb : w'.channels.email = some b) (message : String) :
    b.recipient ≠ "" ∧ b.subject ≠ "" ∧
      (openLetter (b.letter message) =
          some (["To: " ++ b.recipient, "Subject: " ++ b.subject], message) ↔
        Unbroken b.recipient.toList ∧ Unbroken b.subject.toList) ∧
      (readLetter? (b.letter message) = some (b.recipient, b.subject, message) ↔
        Unbroken b.recipient.toList ∧ Unbroken b.subject.toList) := by
  obtain ⟨hrecipient, hsubject⟩ := mail_of_checked hw hb
  exact ⟨hrecipient, hsubject, openLetter_letter_iff,
    readLetter?_eq_some_iff.trans openLetter_letter_iff⟩

/-- The subject is filled in, the recipient ends in a CR and the message has an empty line of its
    own: everything is read back. -/
theorem letter_opens_iff_message :
    ∃ (w w' : Watch) (b : MailAccount), w.check = (.ok (), w') ∧ w'.channels.email = some b ∧
      openLetter (b.letter "x\r\n\r\ny") =
        some (["To: a\r", "Subject: UpToDate Alert!"], "x\r\n\r\ny") ∧
      readLetter? (b.letter "x\r\n\r\ny") = some ("a\r", "UpToDate Alert!", "x\r\n\r\ny") := by
  have hw : Watch.check ⟨"u", ⟨.string, "x", "", .found⟩,
      ⟨some ⟨"h", 0, "n", "p", "f", "a\r", ""⟩, none, none⟩, 0, .http⟩ =
        (.ok (), ⟨"u", ⟨.string, "x", "", .found⟩,
          ⟨some ⟨"h", 587, "n", "p", "f", "a\r", "UpToDate Alert!"⟩, none, none⟩, 0, .http⟩) := rfl
  have hrecipient : Unbroken "a\r".toList := unbroken_of_notMem (c := '\n') (by decide) (by decide)
  have hsubject : Unbroken "UpToDate Alert!".toList :=
    unbroken_of_notMem (c := '\r') (by decide) (by decide)
  obtain ⟨-, -, hopen, hread⟩ := letter_opens_iff hw rfl "x\r\n\r\ny"
  exact ⟨_, _, _, hw, rfl, hopen.mpr ⟨hrecipient, hsubject⟩, hread.mpr ⟨hrecipient, hsubject⟩⟩

/-- **A check does not keep line ends out of a header**: a watch whose mail goes to
    `a CR LF Bcc: b` passes, and its letters have a header of three lines. -/
theorem header_forged :
    ¬ ∀ (w w' : Watch) (b : MailAccount) (message : String), w.check = (.ok (), w') →
      w'.channels.email = some b →
        openLetter (b.letter message) =
          some (["To: " ++ b.recipient, "Subject: " ++ b.subject], message) := by
  intro h
  have hw : Watch.check ⟨"u", ⟨.string, "x", "", .found⟩,
      ⟨some ⟨"h", 25, "n", "p", "f", "a\r\nBcc: b", "s"⟩, none, none⟩, 0, .http⟩ =
        (.ok (), ⟨"u", ⟨.string, "x", "", .found⟩,
          ⟨some ⟨"h", 25, "n", "p", "f", "a\r\nBcc: b", "s"⟩, none, none⟩, 0, .http⟩) := rfl
  have htwo := h _ _ _ "m" hw rfl
  have hthree : openLetter (MailAccount.letter ⟨"h", 25, "n", "p", "f", "a\r\nBcc: b", "s"⟩ "m") =
      some (["To: a", "Bcc: b", "Subject: s"], "m") := by decide
  rw [hthree] at htwo
  obtain ⟨hlines, -⟩ := Prod.mk.inj (Option.some.inj htwo)
  cases congrArg List.length hlines

end PageWatch
