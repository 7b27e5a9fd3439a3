import PageWatch.Proofs.Json.Scalars

/-!
# Reading back what was written: arrays and structures

What is put together of values that are read back is read back itself.

* `takes_list`: an array, element by element;
* `Fills fields s ms s'`: the members `ms` fill the structure `s` up to `s'`. **The members stand in
  the order of the fields, and a field without a member keeps what the structure has**, so a writer
  that leaves a field out is right if the structure starts with what was left out;
* `takes_structure`: an object whose members fill a structure is read as this structure;
* `readStruct_keeps`: what every field keeps holds of every structure that is read, from an object
  or an array, whatever else stands in it;
* `Rereads`: what follows for whole texts. `rereads` has it for readers that take what is written
  for all that they can give.
-/

namespace PageWatch.Json

/-! ## 1. How the text of a value begins -/

/-- No value begins with a blank, with the end of an array or with `null`. -/
theorem render_eq_cons (v : Value) :
    ∃ c cs, v.render.toList = c :: cs ∧ isJsonBlank c = false ∧ c ≠ ']' ∧ c ≠ 'n' := by
  cases v with
  | bool b => cases b <;> exact ⟨_, _, rfl, by decide, by decide, by decide⟩
  | natural n =>
    obtain ⟨d, ds, hds, hdigit⟩ := exists_toDigits_eq_cons n
    refine ⟨d, ds, (render_natural n).trans hds, isJsonBlank_of_isDigit hdigit, ?_, ?_⟩ <;>
      rintro rfl <;> cases hdigit
  | string s => exact ⟨_, _, render_string s, by decide, by decide, by decide⟩
  | array vs => exact ⟨'[', _, by simp [Value.render]; rfl, by decide, by decide, by decide⟩
  | object ms => exact ⟨'\x7B', _, by simp [Value.render]; rfl, by decide, by decide, by decide⟩

theorem render_length_pos (v : Value) : 0 < v.render.toList.length := by
  obtain ⟨c, cs, h, -⟩ := render_eq_cons v
  simp [h]

/-- What is there is read as present. -/
theorem takes_some {α : Type} {read : Reader α} {v : Value} {a : α} (h : Takes read v a) :
    Takes (readOptional read) v (some a) := by
  intro rest hrest
  have hread := h rest hrest
  obtain ⟨c, cs, hv, hblank, -, hnull⟩ := render_eq_cons v
  rw [hv, List.cons_append] at hread ⊢
  rw [readOptional, skipBlanks_cons hblank]
  split
  · next hc => exact absurd (List.cons.inj hc).1 hnull
  · rw [hread]
    rfl

/-! ## 2. Arrays -/

/-- The elements of an array from the first one or from a later one on. -/
def elementsText (first : Bool) : List Value → List Char
  | [] => []
  | v :: vs => (if first then [] else [',']) ++ (v.render.toList ++ elementsText false vs)

theorem renderElements_toList (vs : List Value) :
    (Value.renderElements vs).toList = elementsText true vs := by
  have hlater : ∀ v vs, (Value.renderElements (v :: vs)).toList =
      v.render.toList ++ elementsText false vs := by
    intro v vs
    induction vs generalizing v with
    | nil => simp [Value.renderElements, elementsText]
    | cons v' vs ih => simp [Value.renderElements, elementsText, ih]
  cases vs with
  | nil => rfl
  | cons v vs => simp [hlater, elementsText]

theorem render_array (vs : List Value) :
    (Value.array vs).render.toList = '[' :: (elementsText true vs ++ [']']) := by
  simp [Value.render, renderElements_toList]

theorem ends_elementsText (vs : List Value) (rest : List Char) :
    Ends (elementsText false vs ++ ']' :: rest) := by
  cases vs with
  | nil => exact .bracket rest
  | cons v vs => exact .comma _

theorem nextElement_elementsText (first : Bool) (v : Value) (vs : List Value) (rest : List Char) :
    nextElement first (elementsText first (v :: vs) ++ rest) =
      .ok (.element (v.render.toList ++ (elementsText false vs ++ rest))) := by
  obtain ⟨c, cs, hv, hblank, hbracket, -⟩ := render_eq_cons v
  cases first with
  | true => simp [elementsText, hv, nextElement, skipBlanks_cons hblank]
  | false =>
    have hcomma : isJsonBlank ',' = false := by decide
    simp only [nextElement, elementsText, hv, Bool.false_eq_true, if_false, if_true,
      List.cons_append, List.nil_append, List.append_assoc, skipBlanks_cons hcomma, Char.reduceEq,
      imp_self]
    rw [skipBlanks_cons hblank]
    split
    · next hc => cases hc
    · next hc => exact absurd (List.cons.inj hc).1 hbracket
    · rfl

section Arrays

variable {α : Type} {read : Reader α} {write : α → Value}

theorem readElements_elementsText {as : List α} (h : ∀ a ∈ as, Takes read (write a) a)
    (first : Bool) (rest : List Char) :
    readElements read first (elementsText first (as.map write) ++ ']' :: rest) =
      .ok (as, rest) := by
  induction as generalizing first with
  | nil =>
    rw [readElements]
    rfl
  | cons a as ih =>
    obtain ⟨ha, has⟩ := List.forall_mem_cons.mp h
    have hread := ha _ (ends_elementsText (as.map write) rest)
    have hpos := render_length_pos (write a)
    have hlen : (elementsText false (as.map write) ++ ']' :: rest).length <
        (elementsText first (write a :: as.map write) ++ ']' :: rest).length := by
      simp only [elementsText, List.length_append]
      omega
    rw [List.map_cons, readElements, nextElement_elementsText]
    dsimp only
    rw [hread]
    dsimp only
    rw [dif_pos hlen, ih has false]
    rfl

/-- **An array of values that are read back is read back.** -/
theorem takes_list {as : List α} (h : ∀ a ∈ as, Takes read (write a) a) :
    Takes (readList read) (.array (as.map write)) as := by
  intro rest _
  rw [render_array, List.cons_append, List.append_assoc, List.singleton_append, readList,
    skipBlanks_cons (by decide)]
  exact readElements_elementsText h true rest

end Arrays

/-! ## 3. Structures -/

/-- The members of an object from the first one or from a later one on. -/
def membersText (first : Bool) : List (String × Value) → List Char
  | [] => []
  | (name, v) :: ms =>
    (if first then [] else [',']) ++
      ((Value.string name).render.toList ++ ':' :: (v.render.toList ++ membersText false ms))

theorem renderMembers_toList (ms : List (String × Value)) :
    (Value.renderMembers ms).toList = membersText true ms := by
  have hlater : ∀ name v ms, (Value.renderMembers ((name, v) :: ms)).toList =
      (Value.string name).render.toList ++ ':' :: (v.render.toList ++ membersText false ms) := by
    intro name v ms
    induction ms generalizing name v with
    | nil => simp [Value.renderMembers, Value.render, membersText]
    | cons m ms ih =>
      obtain ⟨name', v'⟩ := m
      simp [Value.renderMembers, membersText, ih, Value.render]
  cases ms with
  | nil => rfl
  | cons m ms =>
    obtain ⟨name, v⟩ := m
    simp [hlater, membersText]

theorem render_object (ms : List (String × Value)) :
    (Value.object ms).render.toList = '\x7B' :: (membersText true ms ++ ['\x7D']) := by
  simp [Value.render, renderMembers_toList]

theorem ends_membersText (ms : List (String × Value)) (rest : List Char) :
    Ends (membersText false ms ++ '\x7D' :: rest) := by
  cases ms with
  | nil => exact .brace rest
  | cons m ms => exact .comma _

theorem nextKey_membersText (first : Bool) (name : String) (v : Value)
    (ms : List (String × Value)) (rest : List Char) :
    nextKey first (membersText first ((name, v) :: ms) ++ rest) =
      .ok (some name, ':' :: (v.render.toList ++ (membersText false ms ++ rest))) := by
  cases first with
  | true =>
    simp [membersText, nextKey, render_string, readText_written, orMalformed,
      skipBlanks_cons (show isJsonBlank '"' = false by decide)]
  | false =>
    simp [membersText, nextKey, render_string, readText_written, orMalformed,
      skipBlanks_cons (show isJsonBlank '"' = false by decide),
      skipBlanks_cons (show isJsonBlank ',' = false by decide)]

theorem afterColon_cons (rest : List Char) : afterColon (':' :: rest) = .ok rest := by
  rw [afterColon, skipBlanks_cons (by decide)]
  rfl

/-- **The members fill a structure**, field by field in order. -/
inductive Fills {σ : Type} : List (StructField σ) → σ → List (String × Value) → σ → Prop
  | nil (s : σ) : Fills [] s [] s
  | skip {f : StructField σ} {fields : List (StructField σ)} {s s' : σ}
      {ms : List (String × Value)} (h : Fills fields s ms s') : Fills (f :: fields) s ms s'
  | take {f : StructField σ} {fields : List (StructField σ)} {s s' s'' : σ} {v : Value}
      {ms : List (String × Value)} (hv : Takes (f.read s) v s') (h : Fills fields s' ms s'') :
      Fills (f :: fields) s ((f.name, v) :: ms) s''

section Structures

variable {σ : Type} {fields : List (StructField σ)} {s s' : σ} {ms : List (String × Value)}

/-- A field that is put into the structure by itself. -/
theorem Fills.put {α : Type} {name : String} {read : Reader α} {put : α → σ → σ} {v : Value}
    {a : α} (hv : Takes read v a) (h : Fills fields (put a s) ms s') :
    Fills (.of name read put :: fields) s ((name, v) :: ms) s' := by
  have htakes : Takes ((StructField.of name read put).read s) v (put a s) :=
    hv.map fun a => put a s
  exact .take htakes h

theorem name_notMem_of_nodup {before after : List (StructField σ)} {f : StructField σ}
    (h : ((before ++ f :: after).map (·.name)).Nodup) : f.name ∉ before.map (·.name) := by
  rw [List.map_append, List.map_cons, List.nodup_append] at h
  obtain ⟨-, -, hbefore⟩ := h
  exact fun hmem => hbefore f.name hmem f.name List.mem_cons_self rfl

/-- The names of the fields are unlike each other, so a name leads to its own field. -/
theorem find?_field {before after : List (StructField σ)} {f : StructField σ}
    (h : ((before ++ f :: after).map (·.name)).Nodup) :
    (before ++ f :: after).find? (·.name = f.name) = some f := by
  rw [List.find?_append, List.find?_eq_none.mpr, Option.none_or, List.find?_cons_of_pos (by simp)]
  intro g hg hname
  have hmem : g.name ∈ before.map (·.name) := List.mem_map_of_mem hg
  rw [show g.name = f.name by simpa using hname] at hmem
  exact name_notMem_of_nodup h hmem

/-- One member for a field that was not read yet. -/
theorem readMembers_member {f : StructField σ} {seen : List String} {v : Value}
    (hfind : fields.find? (·.name = f.name) = some f) (hseen : f.name ∉ seen)
    (hv : Takes (f.read s) v s') (first : Bool) (rest : List Char) :
    readMembers fields s seen first (membersText first ((f.name, v) :: ms) ++ '\x7D' :: rest) =
      readMembers fields s' (f.name :: seen) false (membersText false ms ++ '\x7D' :: rest) := by
  have hread := hv _ (ends_membersText ms rest)
  have hfresh : seen.contains f.name = false := by simpa using hseen
  have hlen : (membersText false ms ++ '\x7D' :: rest).length <
      (membersText first ((f.name, v) :: ms) ++ '\x7D' :: rest).length := by
    simp only [membersText, List.length_append, List.length_cons]
    omega
  rw [readMembers, nextKey_membersText]
  dsimp only
  rw [hfind]
  dsimp only
  rw [hfresh, if_neg Bool.false_ne_true, afterColon_cons]
  dsimp only
  rw [hread]
  dsimp only
  rw [dif_pos hlen]

/-- **Members that fill the fields still to come are read.** The fields in front of them have been
    read or left out, so none of these names comes again. -/
theorem readMembers_membersText (before : List (StructField σ)) (seen : List String)
    (h : Fills fields s ms s') (hnames : ((before ++ fields).map (·.name)).Nodup)
    (hseen : seen ⊆ before.map (·.name)) (first : Bool) (rest : List Char) :
    readMembers (before ++ fields) s seen first (membersText first ms ++ '\x7D' :: rest) =
      .ok (s', rest) := by
  induction h generalizing before seen first with
  | nil s =>
    rw [readMembers]
    rfl
  | @skip f fields s s' ms _ ih =>
    have hseen' : seen ⊆ (before ++ [f]).map (·.name) := by
      rw [List.map_append]
      exact List.subset_append_of_subset_left _ hseen
    simpa using ih (before ++ [f]) seen (by simpa using hnames) hseen' first
  | @take f fields s s' s'' v ms hv _ ih =>
    have hfresh : f.name ∉ seen := fun hmem => name_notMem_of_nodup hnames (hseen hmem)
    have hseen' : f.name :: seen ⊆ (before ++ [f]).map (·.name) := by
      rw [List.map_append]
      exact List.cons_subset.mpr ⟨by simp, List.subset_append_of_subset_left _ hseen⟩
    rw [readMembers_member (find?_field hnames) hfresh hv]
    simpa using ih (before ++ [f]) (f.name :: seen) (by simpa using hnames) hseen' false

theorem takes_structure (wanted : String) (h : Fills fields s ms s')
    (hnames : (fields.map (·.name)).Nodup) :
    Takes (readStruct wanted fields s) (.object ms) (s', .object) := by
  intro rest _
  rw [render_object, List.cons_append, List.append_assoc, List.singleton_append, readStruct,
    skipBlanks_cons (by decide)]
  show (readMembers ([] ++ fields) s [] true _).map _ = _
  rw [readMembers_membersText [] [] h hnames (by simp) true rest]
  rfl

/-- **An object whose members fill a structure is read as this structure.** -/
theorem takes_withDefaults (wanted : String) (h : Fills fields s ms s')
    (hnames : (fields.map (·.name)).Nodup) :
    Takes (readStructWithDefaults wanted fields s) (.object ms) s' :=
  (takes_structure wanted h hnames).map Prod.fst

end Structures

/-! ## 4. What holds of structures that were read -/

section Keeping

variable {σ : Type} {P : σ → Prop} {fields : List (StructField σ)} {s s' : σ}
  {cs rest : List Char}

/-- Reading the field keeps the property of the structure. -/
def StructField.Keeps (P : σ → Prop) (f : StructField σ) : Prop :=
  ∀ s cs s' rest, P s → f.read s cs = .ok (s', rest) → P s'

theorem StructField.keeps_of {α : Type} {name : String} {read : Reader α} {put : α → σ → σ}
    (h : ∀ s cs a rest, P s → read cs = .ok (a, rest) → P (put a s)) :
    (StructField.of name read put).Keeps P := by
  intro s cs s' rest hs hread
  obtain ⟨⟨a, rest'⟩, ha, heq⟩ := map_eq_ok_iff.mp hread
  obtain ⟨rfl, rfl⟩ := Prod.mk.inj heq
  exact h s cs a rest' hs ha

theorem readTuple_keeps (h : ∀ f ∈ fields, f.Keeps P) {count count' : Nat} (hs : P s)
    (hread : readTuple s count fields cs = .ok (s', count', rest)) : P s' := by
  induction fields generalizing s count cs with
  | nil =>
    rw [readTuple] at hread
    split at hread
    · cases hread
      exact hs
    · cases hread
  | cons f fields ih =>
    obtain ⟨hf, hfields⟩ := List.forall_mem_cons.mp h
    rw [readTuple] at hread
    split at hread
    · cases hread
    · cases hread
      exact hs
    · split at hread
      · cases hread
      · next hfield => exact ih hfields (hf _ _ _ _ hs hfield) hread

theorem readMembers_keeps (h : ∀ f ∈ fields, f.Keeps P) {seen : List String} {first : Bool}
    (hs : P s) (hread : readMembers fields s seen first cs = .ok (s', rest)) : P s' := by
  fun_induction readMembers fields s seen first cs with
  | case1 | case3 | case4 | case5 | case7 | case8 | case9 | case11 => cases hread
  | case2 =>
    cases hread
    exact hs
  | case6 _ _ _ _ _ _ _ _ hfind _ _ _ _ _ hfield _ ih =>
    exact ih (h _ (List.mem_of_find?_eq_some hfind) _ _ _ _ hs hfield) hread
  | case10 _ _ _ _ _ _ _ _ _ _ _ _ _ ih => exact ih hs hread

/-- **A structure that was read has what it started with** and every field keeps. -/
theorem readStruct_keeps (h : ∀ f ∈ fields, f.Keeps P) {wanted : String} {form : Form} (hs : P s)
    (hread : readStruct wanted fields s cs = .ok ((s', form), rest)) : P s' := by
  rw [readStruct] at hread
  split at hread
  · obtain ⟨⟨s'', count, rest'⟩, htuple, heq⟩ := map_eq_ok_iff.mp hread
    cases heq
    exact readTuple_keeps h hs htuple
  · obtain ⟨⟨s'', rest'⟩, hmembers, heq⟩ := map_eq_ok_iff.mp hread
    cases heq
    exact readMembers_keeps h hs hmembers
  · rw [unexpected] at hread
    split at hread <;> cases hread

end Keeping

/-! ## 5. Whole texts -/

section Texts

variable {α : Type} {read : Reader α} {write : α → Value}

theorem Takes.readAll_eq_ok {v : Value} {a : α} (h : Takes read v a) :
    readAll read v.render = .ok a := by
  have hread := h [] .atEnd
  rw [List.append_nil] at hread
  rw [readAll, hread]
  rfl

/-- The text that a text becomes when it is read and written. -/
def rewritten (read : Reader α) (write : α → Value) (text : String) : Except Failure String :=
  (readAll read text).map fun a => (write a).render

/-- **Reading takes back what was written.** `fits` is what the type of a value asks of it beyond
    what its model does. -/
structure Rereads (read : Reader α) (write : α → Value) (fits : α → Prop) : Prop where
  /-- Every value is read from the text it is written as. -/
  written : ∀ a, fits a → readAll read (write a).render = .ok a
  /-- What was read from any text is read again from the text it is written as. -/
  again : ∀ text a, readAll read text = .ok a → readAll read (write a).render = .ok a
  /-- A text that was rewritten stays as it is when it is rewritten once more. -/
  settled : ∀ text text', rewritten read write text = .ok text' →
    rewritten read write text' = .ok text'

theorem rereads {fits : α → Prop} (htakes : ∀ a, fits a → Takes read (write a) a)
    (hfits : ∀ cs a rest, read cs = .ok (a, rest) → fits a) : Rereads read write fits := by
  have hwritten : ∀ a, fits a → readAll read (write a).render = .ok a :=
    fun a ha => (htakes a ha).readAll_eq_ok
  have hagain : ∀ text a, readAll read text = .ok a → readAll read (write a).render = .ok a := by
    intro text a h
    rw [readAll] at h
    split at h
    · cases h
    · next hread =>
      split at h
      · cases h
        exact hwritten a (hfits _ _ _ hread)
      · cases h
  refine ⟨hwritten, hagain, fun text text' h => ?_⟩
  obtain ⟨a, ha, rfl⟩ := map_eq_ok_iff.mp h
  rw [rewritten, hagain text a ha]
  rfl

end Texts

end PageWatch.Json
