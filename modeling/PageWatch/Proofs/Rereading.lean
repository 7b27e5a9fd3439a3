import PageWatch.Pattern.Format
import PageWatch.Proofs.Json.Structures
import PageWatch.Watch.Format

/-!
# Everything that is written is read back

`toJson` and `reader` of a type are defined apart: choices are written as words and read by what
is left of a text without blanks, an empty `xpath` and absent channels are not written, and names
of members and fields stand in two lists. The statements, for every type that is written:

* `takes_watch`, `takes_search`, `takes_channels`, `takes_account`, `takes_webhook`, `takes_rules`,
  `takes_outcome`: **the reader takes what is written for the value**, in front of whatever may
  follow. Each one says which members fill which fields;
* `reread_written`: what follows for whole texts.
-/

namespace PageWatch

open PageWatch.Json

/-! ## 1. Choices and numbers -/

theorem takes_mode (m : SearchMode) : Takes SearchMode.reader m.toJson m := by
  refine takes_converted ?_
  cases m <;> rfl

theorem takes_alertWhen (a : AlertWhen) : Takes AlertWhen.reader a.toJson a := by
  refine takes_converted ?_
  cases a <;> rfl

theorem takes_access (a : PageAccess) : Takes PageAccess.reader a.toJson a := by
  refine takes_converted ?_
  cases a <;> rfl

theorem takes_port (p : UInt16) : Takes readPort (.natural p.toNat) p := by
  have hp : p.toNat ≤ UInt16.size - 1 := Nat.le_pred_of_lt p.toNat_lt
  have h : Takes readPort (.natural p.toNat) (UInt16.ofNat p.toNat) :=
    (takes_natural "u16" (by decide) hp).map Nat.toUInt16
  rwa [UInt16.ofNat_toNat] at h

theorem takes_interval (n : UInt64) : Takes readInterval (.natural n.toNat) n := by
  have hn : n.toNat ≤ maxWord := Nat.le_pred_of_lt n.toNat_lt
  have h : Takes readInterval (.natural n.toNat) (UInt64.ofNat n.toNat) :=
    (takes_natural "u64" (Nat.le_refl _) hn).map Nat.toUInt64
  rwa [UInt64.ofNat_toNat] at h

/-! ## 2. Watches and their parts -/

/-- **An empty `xpath` is not written**, and the search that reading starts with has an empty one. -/
theorem takes_search (s : Search) : Takes Search.reader s.toJson s := by
  refine takes_withDefaults _ ?_ (by decide)
  obtain ⟨mode, pattern, xpath, alertWhen⟩ := s
  refine .put (takes_mode mode) (.put (takes_string pattern) ?_)
  split
  · next hempty =>
    rw [String.isEmpty_iff] at hempty
    subst hempty
    exact .skip (.put (takes_alertWhen alertWhen) (.nil _))
  · exact .put (takes_string xpath) (.put (takes_alertWhen alertWhen) (.nil _))

theorem takes_account (a : MailAccount) : Takes MailAccount.reader a.toJson a :=
  takes_withDefaults _
    (.put (takes_string a.host) <| .put (takes_port a.port) <| .put (takes_string a.username) <|
      .put (takes_string a.password) <| .put (takes_string a.sender) <|
      .put (takes_string a.recipient) <| .put (takes_string a.subject) (.nil a))
    (by decide)

theorem takes_webhook (w : Webhook) : Takes Webhook.reader w.toJson w :=
  takes_withDefaults _ (.put (takes_string w.url) (.nil w)) (by decide)

/-- A value that may be absent, in a structure in which it is absent so far. -/
theorem fills_present {σ α : Type} {fields : List (StructField σ)} {s s' : σ}
    {ms : List (String × Value)} {name : String} {read : Reader α} {put : Option α → σ → σ}
    {write : α → Value} {o : Option α} (htakes : ∀ a, Takes read (write a) a)
    (habsent : put none s = s) (h : Fills fields (put o s) ms s') :
    Fills (.of name (readOptional read) put :: fields) s (presentMember name write o ++ ms) s' := by
  cases o with
  | none =>
    rw [habsent] at h
    exact .skip h
  | some a => exact .put (takes_some (htakes a)) h

theorem takes_channels (c : Channels) : Takes Channels.reader c.toJson c := by
  refine takes_withDefaults _ ?_ (by decide)
  rw [List.append_assoc, ← List.append_nil (presentMember "slack" _ _)]
  refine fills_present takes_account rfl (fills_present takes_webhook rfl ?_)
  exact fills_present takes_webhook rfl (.nil c)

theorem takes_watch (w : Watch) : Takes Watch.reader w.toJson w :=
  takes_withDefaults _
    (.put (takes_string w.url) <| .put (takes_search w.search) <|
      .put (takes_channels w.channels) <| .put (takes_interval w.interval) <|
      .put (takes_access w.access) (.nil w))
    (by decide)

/-! ## 3. Rules and outcomes -/

namespace Pattern

theorem takes_rules {r : Rules} (h : r.maxNesting ≤ maxWord) : Takes Rules.reader r.toJson r :=
  takes_withDefaults _
    (.put (takes_natural "usize" (Nat.le_refl _) h) <| .put (takes_bool r.compileAhead) (.nil r))
    (by decide)

theorem maxNesting_le_of_read {cs rest : List Char} {r : Rules}
    (h : Rules.reader cs = .ok (r, rest)) : r.maxNesting ≤ maxWord := by
  obtain ⟨⟨⟨r', form⟩, rest'⟩, hread, heq⟩ := map_eq_ok_iff.mp h
  obtain ⟨rfl, rfl⟩ := Prod.mk.inj heq
  refine readStruct_keeps (P := fun r => r.maxNesting ≤ maxWord) ?_ (by decide) hread
  refine List.forall_mem_cons.mpr ⟨?_, List.forall_mem_singleton.mpr ?_⟩
  · exact StructField.keeps_of fun _ _ _ _ _ hdepth => le_of_readNatural hdepth
  · exact StructField.keeps_of fun _ _ _ _ hr _ => hr

theorem takes_outcome (o : Outcome) : Takes Outcome.reader o.toJson o := by
  intro rest hrest
  have hfills : Fills PartialOutcome.fields {}
      [("found", .bool o.found), ("matches", .array (o.matched.map .string))]
      ⟨some o.found, some o.matched⟩ :=
    .put (takes_bool o.found) (.put (takes_list fun s _ => takes_string s) (.nil _))
  rw [Outcome.reader, Outcome.toJson, takes_structure _ hfills (by decide) rest hrest]
  rfl

end Pattern

/-! ## 4. Whole texts -/

/-- **Whatever is written is read back**: watches and their parts, rules and outcomes. Nesting
    depths are as large as a word allows. -/
theorem reread_written :
    (∀ w : Watch, Watch.ofText w.render = .ok w) ∧
      Rereads Watch.reader Watch.toJson (fun _ => True) ∧
      Rereads Search.reader Search.toJson (fun _ => True) ∧
      Rereads Channels.reader Channels.toJson (fun _ => True) ∧
      Rereads MailAccount.reader MailAccount.toJson (fun _ => True) ∧
      Rereads Webhook.reader Webhook.toJson (fun _ => True) ∧
      Rereads Pattern.Rules.reader Pattern.Rules.toJson (fun r => r.maxNesting ≤ maxWord) ∧
      Rereads Pattern.Outcome.reader Pattern.Outcome.toJson (fun _ => True) :=
  ⟨fun w => (takes_watch w).readAll_eq_ok,
    rereads (fun w _ => takes_watch w) fun _ _ _ _ => trivial,
    rereads (fun s _ => takes_search s) fun _ _ _ _ => trivial,
    rereads (fun c _ => takes_channels c) fun _ _ _ _ => trivial,
    rereads (fun a _ => takes_account a) fun _ _ _ _ => trivial,
    rereads (fun w _ => takes_webhook w) fun _ _ _ _ => trivial,
    rereads (fun _ => Pattern.takes_rules) fun _ _ _ => Pattern.maxNesting_le_of_read,
    rereads (fun o _ => Pattern.takes_outcome o) fun _ _ _ _ => trivial⟩

/-- Rules of depth 7, and a webhook written in another way than this library writes it: as an
    array, with an escape and blanks. -/
theorem reread_written_webhook :
    (7 ≤ maxWord ∧
      readAll Pattern.Rules.reader (Pattern.Rules.toJson ⟨7, false⟩).render = .ok ⟨7, false⟩) ∧
    (readAll Webhook.reader " [ \"a\\u0062\"] " = .ok ⟨"ab"⟩ ∧
      readAll Webhook.reader (Webhook.toJson ⟨"ab"⟩).render = .ok ⟨"ab"⟩) ∧
    (rewritten Webhook.reader Webhook.toJson " [ \"a\\u0062\"] " =
        .ok "\x7B\"webhook_url\":\"ab\"\x7D" ∧
      rewritten Webhook.reader Webhook.toJson "\x7B\"webhook_url\":\"ab\"\x7D" =
        .ok "\x7B\"webhook_url\":\"ab\"\x7D") := by
  obtain ⟨-, -, -, -, -, hwebhook, hrules, -⟩ := reread_written
  have hmax : 7 ≤ maxWord := by decide
  have hread : readAll Webhook.reader " [ \"a\\u0062\"] " = .ok ⟨"ab"⟩ :=
    toOption_eq_some_iff.mp (by decide +kernel)
  have hrewrite : rewritten Webhook.reader Webhook.toJson " [ \"a\\u0062\"] " =
      .ok "\x7B\"webhook_url\":\"ab\"\x7D" := by
    rw [rewritten, hread]
    rfl
  exact ⟨⟨hmax, hrules.written ⟨7, false⟩ hmax⟩, ⟨hread, hwebhook.again _ _ hread⟩,
    ⟨hrewrite, hwebhook.settled _ _ hrewrite⟩⟩

end PageWatch
