import BridgeWatch.Proofs.Json.RoundTrip
import BridgeWatch.Proofs.Json.Shape
import BridgeWatch.Proofs.Json.Shown
import BridgeWatch.Proofs.Rpc.Connector
import BridgeWatch.Proofs.Text.Quoted

/-!
# Rejected ranges in other words

A node says in words of its own that a range was too large, and what carries its words puts more
text around them, quotes them, or both.

* `isRangeRejection_of_infix`: whatever stands around a rejection, it is recognized.
* `isRangeRejection_congr`: in either case of its ASCII letters, too.
* `isRangeRejection_quoted`: and with its other characters escaped.
* `CallFault.isRangeRejection_message`: the wording of a failed call is a rejection, if the node's
  error or any text in its data is one, or the reply that could not be read.
* `rejection_recognized`: a fetch that a node rejects is one of too large a range, and the observer
  asks for half as many blocks next.
-/

namespace BridgeWatch.Rpc

variable {m text : List Char} {s : String}

/-! ## Phrases -/

theorem isRangeRejection_iff : isRangeRejection m = true ↔
    ∃ phrase ∈ rejectionPhrases, phrase <:+: Text.lower m := by
  simp only [isRangeRejection, List.any_eq_true, Text.occursIn_iff]

/-- No phrase depends on the forms of sigmas or has a character that is escaped. -/
theorem isVerbatim_of_mem_rejectionPhrases :
    ∀ phrase ∈ rejectionPhrases, ∀ c ∈ phrase, Text.IsVerbatim c := by
  have hall : (rejectionPhrases.all fun phrase => phrase.all fun c =>
      0x20 ≤ c.toNat && c.toNat < 0x7F && c != '"' && c != '\\') = true := by decide +kernel
  intro phrase hphrase c hc
  have hplain := List.all_eq_true.1 (List.all_eq_true.1 hall phrase hphrase) c hc
  simpa [Text.IsVerbatim, and_assoc] using hplain

/-- **A rejection is recognized in every text around it.** -/
theorem isRangeRejection_of_infix (h : isRangeRejection m = true) (inside : m <:+: text) :
    isRangeRejection text = true := by
  obtain ⟨phrase, hphrase, found⟩ := isRangeRejection_iff.1 h
  have verbatim := isVerbatim_of_mem_rejectionPhrases phrase hphrase
  exact isRangeRejection_iff.2 ⟨phrase, hphrase,
    Text.infix_lower (fun c hc => (verbatim c hc).not_isSigma) found inside⟩

/-- The case of ASCII letters does not matter. -/
theorem isRangeRejection_congr (h : m.map Char.toLower = text.map Char.toLower) :
    isRangeRejection m = isRangeRejection text := by
  rw [isRangeRejection, isRangeRejection, ← Text.lower_map_toLower m, h, Text.lower_map_toLower]

/-- A rejection is recognized between quotation marks, whichever of its characters are escaped. -/
theorem isRangeRejection_quoted (h : isRangeRejection s.toList = true) :
    isRangeRejection (Text.quoted s).toList = true := by
  obtain ⟨phrase, hphrase, found⟩ := isRangeRejection_iff.1 h
  exact isRangeRejection_iff.2 ⟨phrase, hphrase,
    Text.infix_lower_quoted (isVerbatim_of_mem_rejectionPhrases phrase hphrase) found⟩

/-! ## Failed calls -/

/-- The texts in what a node has said in a failed call: the message of its error and the texts in
its data, or a reply that cannot be read. -/
def CallFault.words : CallFault → List String
  | .unanswered => []
  | .unreadable _ text => [text]
  | .refused e => e.message :: e.data.elim [] Json.texts

/-- An error as a value. -/
def NodeError.toJson (e : NodeError) : Json :=
  .obj (("code", .int e.code) :: ("message", .str e.message) ::
    e.data.elim [] fun data => [("data", data)])

/-- A reply that gives an error. -/
def NodeError.reply (id : UInt64) (e : NodeError) : Json :=
  .obj [("jsonrpc", .str "2.0"), ("id", .word id), ("error", e.toJson)]

theorem readError?_toJson {e : NodeError} (hcode : e.code < (UInt64.size / 2 : Nat))
    (hdata : e.data ≠ some .null) :
    readError? e.toJson = some { e with data := e.data.map Json.collected } := by
  obtain ⟨code, message, data⟩ := e
  have hinteger : integer? (.int code) = some code := if_pos hcode
  cases data with
  | none =>
    show ((integer? (.int code)).bind fun code => some (NodeError.mk code message none)) = _
    rw [hinteger]
    rfl
  | some data =>
    have hoptional : (Json.Record.mk [("code", .int code), ("message", .str message),
        ("data", data)]).optional "data" (fun data => some data.collected) =
        some (some data.collected) := by
      cases data with
      | null => exact absurd rfl hdata
      | _ => rfl
    show ((integer? (.int code)).bind fun code => ((Json.Record.mk [("code", .int _),
      ("message", .str message), ("data", data)]).optional "data"
        fun data => some data.collected).bind fun data => some (NodeError.mk code message data)) = _
    rw [hinteger, hoptional]
    rfl

/-- **A node's error is read with all it says.** -/
theorem readReply_refused {α : Type} {f : Json → Option α} {status : Nat} {body : String}
    {id : UInt64} {e : NodeError} (hcode : e.code < (UInt64.size / 2 : Nat))
    (hdata : e.data ≠ some .null) (hbody : Json.parse body = .ok (e.reply id)) :
    readReply f (.replied status body) =
      .error (.refused { e with data := e.data.map Json.collected }) := by
  have hid : (Json.word id).word?.isSome = true := by rw [Json.word?_word]; rfl
  have hdistinct : ["jsonrpc", "id", "error"].Nodup := by decide
  have hknown : ["jsonrpc", "id", "error"].all ["id", "jsonrpc", "result", "error"].contains =
      true := by decide
  have henvelope : readEnvelope? (e.reply id) = (readError? e.toJson).map .error :=
    if_pos ⟨hdistinct, hknown, rfl, hid⟩
  rw [readReply, readResult, hbody]
  dsimp only
  rw [henvelope, readError?_toJson hcode hdata]
  rfl

theorem NodeError.message_infix_text (e : NodeError) : e.message.toList <:+: e.text.toList := by
  refine ⟨("(code: " ++ Text.signedDecimal e.code ++ ", message: ").toList,
    (", data: " ++ e.dataText ++ ")").toList, ?_⟩
  simp only [text, String.toList_append, List.append_assoc]

/-- The texts in an error's data are quoted in its wording. -/
theorem NodeError.quoted_infix_text {e : NodeError} {j : Json} (hj : e.data = some j)
    (hs : s ∈ j.texts) : (Text.quoted s).toList <:+: e.text.toList := by
  have hshown : j.shown <:+: e.dataText.toList := by
    refine ⟨"Some(".toList, [')'], ?_⟩
    rw [dataText, hj]
    simp only [String.toList_append, String.toList_ofList]
    rfl
  have hdata : e.dataText.toList <:+: e.text.toList := by
    refine ⟨("(code: " ++ Text.signedDecimal e.code ++ ", message: " ++ e.message ++
      ", data: ").toList, [')'], ?_⟩
    simp only [text, String.toList_append]
    rfl
  exact ((Json.quoted_infix_shown hs).trans hshown).trans hdata

/-- **The wording of a failed call is a rejection, if a text in what the node has said is one.** -/
theorem CallFault.isRangeRejection_message {f : CallFault} (hs : s ∈ f.words)
    (h : isRangeRejection s.toList = true) : isRangeRejection f.message.toList = true := by
  cases f with
  | unanswered => cases hs
  | unreadable cause text =>
    obtain rfl : s = text := List.mem_singleton.1 hs
    refine isRangeRejection_of_infix h
      ⟨("Deserialization Error: " ++ cause ++ ". Response: ").toList, [], ?_⟩
    rw [List.append_nil, ← String.toList_append]
    rfl
  | refused e =>
    rcases List.mem_cons.1 hs with rfl | hs
    · exact isRangeRejection_of_infix h e.message_infix_text
    · cases hj : e.data with
      | none =>
        rw [hj] at hs
        cases hs
      | some j =>
        rw [hj] at hs
        exact isRangeRejection_of_infix (isRangeRejection_quoted h) (e.quoted_infix_text hj hs)

/-- **A rejection means that the range was too large.** -/
theorem Connector.fetchFault_of_rejects {c : Connector} {w : Window} {f : CallFault}
    (rejects : isRangeRejection f.message.toList = true) :
    c.fetchFault w f = .rangeTooLarge c.chain w.first w.last c.maxRange := by
  rw [fetchFault, rejects, if_pos rfl]

/-- **Rejections are recognized however they are wrapped.** A message that has one in it is one,
whatever stands around it and whatever the case of its ASCII letters. An error that a node replies
is read with its message and its data. The wording of a failed call is a rejection, if that message
is one, or any text in the data, which stands there quoted and with escapes, or the reply that could
not be read. A fetch whose call fails in such words fails for too large a range, and the tick that
waits for the logs ends and leaves half the window for the next scan. -/
theorem rejection_recognized :
    (∀ a m b : List Char, isRangeRejection m = true → isRangeRejection (a ++ m ++ b) = true) ∧
    (∀ m m' : List Char, m.map Char.toLower = m'.map Char.toLower →
      isRangeRejection m = isRangeRejection m') ∧
    (∀ (status : Nat) (body : String) (id : UInt64) (e : NodeError),
      e.code < (UInt64.size / 2 : Nat) → e.data ≠ some .null →
      Json.parse body = .ok (e.reply id) → readReply Connector.logs? (.replied status body) =
        .error (.refused { e with data := e.data.map Json.collected })) ∧
    (∀ (f : CallFault) (s : String), s ∈ f.words → isRangeRejection s.toList = true →
      isRangeRejection f.message.toList = true) ∧
    ∀ (σ : Type) (t : Http.Transport σ) (s : σ) (c : Connector) (o : Observer) (v : View)
      (w : Window) (f : CallFault), c.guardWindow w = .ok () →
      readReply Connector.logs?
        (t.exchange (c.request "eth_getLogs" (logParams o.contract w)) s).1 = .error f →
      isRangeRejection f.message.toList = true →
      (c.fetch t o.contract w s).1 =
        .error (.rangeTooLarge c.chain w.first w.last c.maxRange) ∧
      ∃ v', o.resumeTick v (.fetch w) (c.fetch t o.contract w s).1 =
          .finished (.error (.rangeTooLarge c.chain w.first w.last c.maxRange)) v' ∧
        v'.progress.window = Observer.halved v.progress.window := by
  refine ⟨fun a m b h => isRangeRejection_of_infix h ⟨a, b, rfl⟩, fun _ _ => isRangeRejection_congr,
    fun _ _ _ _ => readReply_refused, fun _ _ => CallFault.isRangeRejection_message, ?_⟩
  intro σ t s c o v w f hw hreply rejects
  have hfetch : (c.fetch t o.contract w s).1 =
      .error (.rangeTooLarge c.chain w.first w.last c.maxRange) := by
    rw [Connector.fetch_of_passes hw, hreply, ← Connector.fetchFault_of_rejects rejects]
    rfl
  refine ⟨hfetch, ?_⟩
  rw [hfetch]
  obtain ⟨v', hend, ⟨-, half⟩ | ⟨hne, -⟩⟩ := Observer.afterFetch_error (o := o) (v := v) w
    (.rangeTooLarge c.chain w.first w.last c.maxRange)
  · exact ⟨v', hend, half⟩
  · exact absurd rfl (hne _ _ _ _)

/-! ## A node that rejects -/

/-- The error of a query over too many blocks, of which only the data speak. -/
def sampleError : NodeError where
  code := -32602
  message := "Invalid params"
  data := some (.obj [("reason", .str "\"Block range\" > 5")])

/-- A transport on which every request gets a reply with that error. -/
def sampleTransport : Http.Transport Unit :=
  ⟨fun _ s => (.replied 200 (sampleError.reply 1).compact, s)⟩

/-- A connector for ten blocks at once. -/
def sampleConnector : Connector where
  chain := ⟨"goerli"⟩
  endpoint := ⟨"http".toList, [], some (.domain "node".toList), none, .segments [[]], none, none⟩
  maxRange := 10

/-- Sigmas around a rejection, one of them at the end of its last word; the rejection in capitals;
and ten blocks that a node rejects in the data of its error. -/
theorem rejection_recognized_sampleError :
    isRangeRejection ("\u039F\u03A3".toList ++ "Block range".toList ++ "\u03A3".toList) = true ∧
    isRangeRejection "Block range".toList = isRangeRejection "BLOCK RANGE".toList ∧
    ∃ v', (default : Observer).resumeTick ⟨⟨10, default⟩, default⟩ (.fetch ⟨101, 110⟩)
        (sampleConnector.fetch sampleTransport default ⟨101, 110⟩ ()).1 =
          .finished (.error (.rangeTooLarge ⟨"goerli"⟩ 101 110 10)) v' ∧
        v'.progress.window = 5 := by
  have rejects : isRangeRejection "Block range".toList = true := by decide +kernel
  have reason : isRangeRejection "\"Block range\" > 5".toList = true := by decide +kernel
  have capitals : "Block range".toList.map Char.toLower =
      "BLOCK RANGE".toList.map Char.toLower := by decide
  have half : Observer.halved 10 = 5 := by decide
  have hplain : (sampleError.reply 1).IsPlain Json.maxDepth := by
    simp [sampleError, NodeError.reply, NodeError.toJson, Json.IsPlain, Json.maxDepth, Json.word,
      Json.nat]
  obtain ⟨wrapped, anyCase, read, said, rejected⟩ := rejection_recognized
  refine ⟨wrapped "\u039F\u03A3".toList "Block range".toList "\u03A3".toList rejects,
    anyCase _ _ capitals, ?_⟩
  have hreply := read 200 _ 1 sampleError (by decide) nofun (Json.parse_compact hplain)
  have hwords : "\"Block range\" > 5" ∈ (CallFault.refused
      { sampleError with data := sampleError.data.map Json.collected }).words :=
    .tail _ (.tail _ (.head _))
  obtain ⟨-, v', hend, hwindow⟩ := rejected Unit sampleTransport () sampleConnector default
    ⟨⟨10, default⟩, default⟩ ⟨101, 110⟩ _ rfl hreply (said _ _ hwords reason)
  exact ⟨v', hend, hwindow.trans half⟩

end BridgeWatch.Rpc
