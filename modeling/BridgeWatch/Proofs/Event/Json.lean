import BridgeWatch.Event.Json
import BridgeWatch.Proofs.Json.RoundTrip
import BridgeWatch.Proofs.Json.Shape
import BridgeWatch.Proofs.Words

/-!
# Events read back from their spellings

* `Event.IsSpelled`: the objects that may stand for an event. They have the members of its kind, in
  any order and besides others, with hex digits in either case and behind `0x` or not.
* `Event.ofJson?_of_isSpelled`: each of them is read as the event.
* `Event.ofJson?_without`, `Event.ofJson?_without_provenance`: none of them is read without a
  member.
* `Event.json_roundTrip`: so what is written of an event is read back, on the level of texts too.
-/

namespace BridgeWatch

open Json (Shape)
open Json.Shape (Meets named)

/-! ## Spellings -/

/-- What the members of a provenance may be. -/
def Provenance.shape (p : Provenance) : Shape :=
  [("chain", (· = .str p.chain.text)), ("transaction_id", p.transaction.IsSpelled),
    ("block_height", (· = .word p.height))]

/-- A value is an object that stands for a provenance. -/
def Provenance.IsSpelled (p : Provenance) (j : Json) : Prop :=
  ∃ ms, j = .obj ms ∧ p.shape.Fits ms

namespace Event

/-- What the members of a transfer may be. -/
def transferShape (t : TransferDetails) (middle : Shape) : Shape :=
  [("sender", t.sender.IsSpelled), ("source_chain", (· = .str t.sourceChain.text)),
    ("recipient", (· = .str t.recipient))] ++ middle ++
    [("message", Bytes.IsSpelled t.message), ("provenance", t.provenance.IsSpelled)]

/-- What the members of a payout may be. -/
def payoutShape (p : PayoutDetails) (more : Shape) : Shape :=
  [("recipient", (· = .str p.recipient)), ("amount", p.amount.IsSpelled)] ++ more ++
    [("provenance", p.provenance.IsSpelled)]

/-- What the members of an event may be, without its type. -/
def memberShape : Event → Shape
  | deposit t => transferShape t
      [("destination_chain", (· = .str t.destinationChain.text)), ("amount", t.amount.IsSpelled)]
  | burn t => transferShape t
      [("amount", t.amount.IsSpelled), ("destination_chain", (· = .str t.destinationChain.text))]
  | release p => payoutShape p []
  | mintConfirmation p h => payoutShape p [("correlation_hash", h.IsSpelled)]

/-- What the members of an event may be. -/
def shape (e : Event) : Shape := ("type", (· = .str e.kind.name)) :: e.memberShape

/-- A value is an object that stands for an event. -/
def IsSpelled (e : Event) (j : Json) : Prop := ∃ ms, j = .obj ms ∧ e.shape.Fits ms

end Event

/-! ## Reading -/

namespace Provenance

theorem isSpelled_toJson (p : Provenance) : p.IsSpelled p.toJson :=
  ⟨_, rfl, _, [], .of_eq (List.append_nil _).symm,
    .cons ⟨rfl, rfl⟩ (.cons ⟨rfl, p.transaction.isSpelled_text⟩ (.cons ⟨rfl, rfl⟩ .nil)), nofun⟩

variable {p : Provenance} {j : Json}

theorem nodup_fieldNames : fieldNames.Nodup := by decide

/-- A provenance is read from whatever stands for it. -/
theorem ofJson?_of_isSpelled (h : p.IsSpelled j) : ofJson? j = some p := by
  obtain ⟨ms, rfl, hms⟩ := h
  obtain ⟨r, hr, hgives⟩ := Json.Record.exists_gives (hms.gives nodup_fieldNames)
  have hchain : r.required "chain" ChainId.ofJson? = some p.chain :=
    hgives.required (.head _) (by rintro _ rfl; rfl)
  have htransaction : r.required "transaction_id" Json.hash? = some p.transaction :=
    hgives.required (.tail _ (.head _)) fun _ => Json.hash?_of_isSpelled
  have hheight : r.required "block_height" Json.word? = some p.height := by
    refine hgives.required (.tail _ (.tail _ (.head _))) ?_
    rintro _ rfl
    exact Json.word?_word p.height
  show (Json.Record.of? fieldNames (.obj ms)).bind _ = _
  rw [show fieldNames = p.shape.names from rfl, hr]
  show (r.required "chain" _).bind _ = _
  simp only [hchain, htransaction, hheight]
  rfl

/-- No object is read as a provenance that lacks a member. -/
theorem ofJson?_without {name : String} (h : p.IsSpelled j) (hname : name ∈ fieldNames) :
    ofJson? (j.without name) = none := by
  obtain ⟨ms, rfl, -⟩ := h
  show (Json.Record.of? fieldNames (.obj (ms.filter fun m => m.1 != name))).bind _ = none
  rw [Option.bind_eq_none_iff]
  intro r hr
  have hnone {α : Type} (f : Json → Option α) : r.required name f = none :=
    Json.Record.required_eq_none hr hname (Json.Shape.named_without name ms) f
  simp only [fieldNames, List.mem_cons, List.not_mem_nil, or_false] at hname
  rcases hname with rfl | rfl | rfl <;> simp [hnone]

end Provenance

namespace Event

variable {e : Event} {j : Json} {ms : List (String × Json)} {r : Json.Record} {kind : EventKind}
  {name : String}

theorem names_shape (e : Event) : e.shape.names = "type" :: fieldNames e.kind := by
  cases e <;> rfl

theorem nodup_fieldNames (kind : EventKind) : ("type" :: fieldNames kind).Nodup := by
  cases kind <;> decide

/-- An object that names its kind once is read as one of this kind. -/
theorem ofJson?_obj (h : named "type" ms = [("type", .str kind.name)]) :
    ofJson? (.obj ms) =
      (Json.Record.of? (fieldNames kind) (.obj (ms.filter fun m => m.1 != "type"))).bind
        (ofRecord? kind) := by
  have htagged : tagged? (.obj ms) = some (kind, .obj (ms.filter fun m => m.1 != "type")) := by
    unfold tagged?
    rw [named] at h
    simp only [h, Json.string?, Option.bind_some, EventKind.ofName?_name, Option.map_some]
  rw [ofJson?, htagged]
  rfl

theorem ofJson?_of_eq_text {c : ChainId} : ∀ v, v = .str c.text → ChainId.ofJson? v = some c := by
  rintro _ rfl
  rfl

theorem string?_of_eq_str {s : String} : ∀ v, v = .str s → Json.string? v = some s := by
  rintro _ rfl
  rfl

/-- The fields of a transfer are read from whatever stands for them. -/
theorem transferOf?_of_gives {t : TransferDetails} {middle : Shape}
    (h : Json.Record.Gives (transferShape t middle) r)
    (hdestination : ("destination_chain", (· = .str t.destinationChain.text)) ∈ middle)
    (hamount : ("amount", t.amount.IsSpelled) ∈ middle) : transferOf? r = some t := by
  have inMiddle {f : String × (Json → Prop)} (hf : f ∈ middle) : f ∈ transferShape t middle :=
    List.mem_append_left _ (List.mem_append_right _ hf)
  have inEnds {f : String × (Json → Prop)} (hf : f ∈ transferShape t []) :
      f ∈ transferShape t middle := by
    simp only [transferShape, List.mem_append, List.append_nil] at hf ⊢
    tauto
  have hsender := h.required (inEnds (.head _)) fun _ => Json.address?_of_isSpelled
  have hsource := h.required (inEnds (.tail _ (.head _))) ofJson?_of_eq_text
  have hrecipient := h.required (inEnds (.tail _ (.tail _ (.head _)))) string?_of_eq_str
  have hmessage := h.required (inEnds (.tail _ (.tail _ (.tail _ (.head _)))))
    fun _ => Json.bytes?_of_isSpelled
  have hprovenance := h.required (inEnds (.tail _ (.tail _ (.tail _ (.tail _ (.head _))))))
    fun _ => Provenance.ofJson?_of_isSpelled
  have hto := h.required (inMiddle hdestination) ofJson?_of_eq_text
  have hmoved := h.required (inMiddle hamount) fun _ => Json.amount?_of_isSpelled
  simp only [transferOf?, hsender, hsource, hrecipient, hmessage, hprovenance, hto, hmoved]
  rfl

/-- The fields of a payout are read from whatever stands for them. -/
theorem payoutOf?_of_gives {p : PayoutDetails} {more : Shape}
    (h : Json.Record.Gives (payoutShape p more) r) : payoutOf? r = some p := by
  have hrecipient := h.required (.head _) string?_of_eq_str
  have hamount := h.required (.tail _ (.head _)) fun _ => Json.amount?_of_isSpelled
  have hprovenance := h.required (List.mem_append_right _ (.head _))
    fun _ => Provenance.ofJson?_of_isSpelled
  simp only [payoutOf?, hrecipient, hamount, hprovenance]
  rfl

/-- The fields of an event are read from whatever stands for them. -/
theorem ofRecord?_of_gives (h : Json.Record.Gives e.memberShape r) :
    ofRecord? e.kind r = some e := by
  cases e with
  | deposit t =>
    show (transferOf? r).map deposit = _
    rw [transferOf?_of_gives h (.head _) (.tail _ (.head _)), Option.map_some]
  | burn t =>
    show (transferOf? r).map burn = _
    rw [transferOf?_of_gives h (.tail _ (.head _)) (.head _), Option.map_some]
  | release p =>
    show (payoutOf? r).map release = _
    rw [payoutOf?_of_gives h, Option.map_some]
  | mintConfirmation p c =>
    have hcorrelation := h.required (.tail _ (.tail _ (.head _))) fun _ => Json.hash?_of_isSpelled
    show (payoutOf? r).bind _ = _
    rw [payoutOf?_of_gives h, Option.bind_some, hcorrelation]
    rfl

/-- The type of an object that stands for an event, and its other members. -/
theorem gives_of_fits (h : e.shape.Fits ms) :
    named "type" ms = [("type", .str e.kind.name)] ∧
      e.memberShape.Gives (ms.filter fun m => m.1 != "type") := by
  have distinct : e.shape.names.Nodup := by
    rw [names_shape]
    exact nodup_fieldNames e.kind
  have hgives := h.gives distinct
  refine ⟨?_, fun f hf => ?_⟩
  · obtain ⟨_, rfl, htype⟩ := hgives _ (.head _)
    exact htype
  · obtain ⟨v, hv, hnamed⟩ := hgives f (.tail _ hf)
    refine ⟨v, hv, ?_⟩
    rwa [Json.Shape.named_without_of_ne]
    have hmem : f.1 ∈ e.memberShape.names := List.mem_map_of_mem hf
    exact fun hname => (List.nodup_cons.1 distinct).1 (hname ▸ hmem)

/-- An event is read from whatever stands for it. -/
theorem ofJson?_of_isSpelled (h : e.IsSpelled j) : ofJson? j = some e := by
  obtain ⟨ms, rfl, hms⟩ := h
  obtain ⟨htype, hgives⟩ := gives_of_fits hms
  obtain ⟨r, hr, hfields⟩ := Json.Record.exists_gives hgives
  have hnames : e.memberShape.names = fieldNames e.kind := (List.cons.inj (names_shape e)).2
  rw [hnames] at hr
  rw [ofJson?_obj htype, hr, Option.bind_some, ofRecord?_of_gives hfields]

/-! ## Objects that lack a member -/

theorem ofRecord?_eq_none (hname : name ∈ fieldNames kind)
    (h : ∀ {α : Type} (f : Json → Option α), r.required name f = none) :
    ofRecord? kind r = none := by
  cases kind <;> simp only [fieldNames, List.mem_cons, List.not_mem_nil, or_false] at hname
  · rcases hname with rfl | rfl | rfl | rfl | rfl | rfl | rfl <;>
      simp [ofRecord?, transferOf?, h]
  · rcases hname with rfl | rfl | rfl | rfl | rfl | rfl | rfl <;>
      simp [ofRecord?, transferOf?, h]
  · rcases hname with rfl | rfl | rfl <;> simp [ofRecord?, payoutOf?, h]
  · rcases hname with rfl | rfl | rfl | rfl <;> simp [ofRecord?, payoutOf?, h]

theorem ofRecord?_eq_none_of_provenance
    (h : r.required "provenance" Provenance.ofJson? = none) : ofRecord? kind r = none := by
  cases kind <;> simp [ofRecord?, transferOf?, payoutOf?, h]

/-- No object is read as an event that lacks a member of the kind that it names. -/
theorem ofJson?_without (h : e.IsSpelled j) (hname : name ∈ "type" :: fieldNames e.kind) :
    ofJson? (j.without name) = none := by
  obtain ⟨ms, rfl, hms⟩ := h
  obtain ⟨htype, -⟩ := gives_of_fits hms
  show ofJson? (.obj (ms.filter fun m => m.1 != name)) = none
  rcases List.mem_cons.1 hname with rfl | hfield
  · have hnone := Json.Shape.named_without "type" ms
    have htagged : tagged? (.obj (ms.filter fun m => m.1 != "type")) = none := by
      unfold tagged?
      rw [named] at hnone
      simp only [hnone]
    rw [ofJson?, htagged]
    rfl
  · have hne : "type" ≠ name := by
      rintro rfl
      exact (List.nodup_cons.1 (nodup_fieldNames e.kind)).1 hfield
    rw [← Json.Shape.named_without_of_ne hne] at htype
    rw [ofJson?_obj htype, Option.bind_eq_none_iff]
    intro r hr
    refine ofRecord?_eq_none hfield fun f => Json.Record.required_eq_none hr hfield ?_ f
    rw [Json.Shape.named_without_of_ne hne.symm, Json.Shape.named_without]

/-- No object is read as an event whose provenance lacks a member. -/
theorem ofJson?_without_provenance (h : e.IsSpelled j) (hname : name ∈ Provenance.fieldNames) :
    ofJson? (j.mapMember "provenance" (·.without name)) = none := by
  obtain ⟨ms, rfl, hms⟩ := h
  obtain ⟨htype, hgives⟩ := gives_of_fits hms
  have hshape : ("provenance", e.provenance.IsSpelled) ∈ e.memberShape := by
    cases e <;> exact List.mem_append_right _ (by simp [provenance])
  have hfield : "provenance" ∈ fieldNames e.kind := by
    cases e.kind <;> decide
  have hne : "provenance" ≠ "type" := by decide
  obtain ⟨v, hv, hprovenance⟩ := hgives _ hshape
  rw [Json.Shape.named_without_of_ne hne] at hprovenance
  show ofJson? (.obj (ms.map (Json.changed "provenance" (·.without name)))) = none
  have htype' : named "type" (ms.map (Json.changed "provenance" (·.without name))) =
      [("type", .str e.kind.name)] := by
    rw [Json.Shape.named_map_changed, htype]
    rfl
  rw [ofJson?_obj htype', Option.bind_eq_none_iff]
  intro r hr
  refine ofRecord?_eq_none_of_provenance ?_
  rw [Json.Record.required, Json.Record.get?_of_of? hr hfield,
    Json.Shape.named_without_of_ne hne, Json.Shape.named_map_changed, hprovenance]
  exact Provenance.ofJson?_without hv hname

/-! ## Written events -/

/-- Reads an event from a text. -/
def ofText? (text : String) : Option Event := (Json.parse text).toOption.bind ofJson?

theorem meets_transferMembers (t : TransferDetails) {middle : List (String × Json)} {shape : Shape}
    (h : List.Forall₂ Meets shape middle) :
    List.Forall₂ Meets (transferShape t shape) (transferMembers t middle) :=
  List.rel_append
    (List.rel_append
      (.cons ⟨rfl, t.sender.isSpelled_text⟩ (.cons ⟨rfl, rfl⟩ (.cons ⟨rfl, rfl⟩ .nil))) h)
    (.cons ⟨rfl, Bytes.isSpelled_bytes t.message⟩
      (.cons ⟨rfl, t.provenance.isSpelled_toJson⟩ .nil))

theorem meets_payoutMembers (p : PayoutDetails) {more : List (String × Json)} {shape : Shape}
    (h : List.Forall₂ Meets shape more) :
    List.Forall₂ Meets (payoutShape p shape) (payoutMembers p more) :=
  List.rel_append
    (List.rel_append (.cons ⟨rfl, rfl⟩ (.cons ⟨rfl, p.amount.isSpelled_hex⟩ .nil)) h)
    (.cons ⟨rfl, p.provenance.isSpelled_toJson⟩ .nil)

theorem meets_members (e : Event) : List.Forall₂ Meets e.memberShape e.members := by
  cases e with
  | deposit t =>
    exact meets_transferMembers t (.cons ⟨rfl, rfl⟩ (.cons ⟨rfl, t.amount.isSpelled_hex⟩ .nil))
  | burn t =>
    exact meets_transferMembers t (.cons ⟨rfl, t.amount.isSpelled_hex⟩ (.cons ⟨rfl, rfl⟩ .nil))
  | release p => exact meets_payoutMembers p .nil
  | mintConfirmation p c => exact meets_payoutMembers p (.cons ⟨rfl, c.isSpelled_text⟩ .nil)

/-- What is written of an event stands for it. -/
theorem isSpelled_toJson (e : Event) : e.IsSpelled e.toJson :=
  ⟨_, rfl, _, [], .of_eq (List.append_nil _).symm, .cons ⟨rfl, rfl⟩ e.meets_members, nofun⟩

theorem isPlain_toJson (e : Event) : e.toJson.IsPlain Json.maxDepth := by
  have text (s : String) : (Json.str s).IsPlain 126 := trivial
  have word (n : UInt64) : (Json.word n).IsPlain 125 := by
    have hfits := n.toNat_lt
    have hsize : UInt64.size = 18446744073709551616 := rfl
    show -(UInt64.size / 2 : Int) ≤ (n.toNat : Int) ∧ (n.toNat : Int) < UInt64.size
    omega
  have provenance (p : Provenance) : p.toJson.IsPlain 126 := by
    show ∀ m : String × Json, m ∈ _ → m.2.IsPlain 125
    simp only [List.forall_mem_cons]
    exact ⟨trivial, trivial, word p.height, nofun⟩
  show ∀ m : String × Json, m ∈ _ → m.2.IsPlain 126
  cases e <;>
    simp [members, transferMembers, payoutMembers, Json.bytes, text, provenance, or_imp, forall_and]

/-- **Events are read back from every spelling**: from an object with the members of its kind in any
order and members of other names besides, with hex digits in either case and behind `0x` or not, and
with zeros in front of an amount; so it is read as no other kind of event. If a member is left out,
nothing is read. What is written of an event is such an object, and it is read back from its text,
as is any other one that nests no deeper than the reader goes and has no double in it. -/
theorem json_roundTrip (e : Event) :
    (∀ j, e.IsSpelled j → ofJson? j = some e ∧
      (∀ name ∈ "type" :: fieldNames e.kind, ofJson? (j.without name) = none) ∧
      (∀ name ∈ Provenance.fieldNames,
        ofJson? (j.mapMember "provenance" (·.without name)) = none) ∧
      (j.IsPlain Json.maxDepth → ofText? j.compact = some e)) ∧
    e.IsSpelled e.toJson ∧ ofText? e.toJson.compact = some e := by
  have hread {j : Json} (h : e.IsSpelled j) (plain : j.IsPlain Json.maxDepth) :
      ofText? j.compact = some e := by
    rw [ofText?, Json.parse_compact plain]
    exact ofJson?_of_isSpelled h
  refine ⟨fun j h => ⟨ofJson?_of_isSpelled h, ?_, ?_, hread h⟩, e.isSpelled_toJson, ?_⟩
  · exact fun name => ofJson?_without h
  · exact fun name => ofJson?_without_provenance h
  · exact hread e.isSpelled_toJson e.isPlain_toJson

/-- The release of 42 tokens. -/
def sampleRelease : Event := .release ⟨"r", ⟨42⟩, ⟨⟨"c"⟩, ⟨7⟩, 5⟩⟩

/-- The release in other words: the members stand in the opposite order behind one that is not
known, and the amount has zeros in front of capital digits and no mark. -/
def sampleSpelling : Json :=
  .obj [("memo", .null), ("provenance", sampleRelease.provenance.toJson), ("amount", .str "002A"),
    ("recipient", .str "r"), ("type", .str "release")]

/-- The sample is read, and not without its recipient. -/
theorem json_roundTrip_sampleSpelling :
    sampleRelease.IsSpelled sampleSpelling ∧ ofJson? sampleSpelling = some sampleRelease ∧
      ofJson? (sampleSpelling.without "recipient") = none := by
  have hamount : Amount.IsSpelled ⟨42⟩ (.str "002A") :=
    ⟨2, by decide, _, rfl, "002A".toList, by decide, .inl rfl⟩
  have hspelled : sampleRelease.IsSpelled sampleSpelling := by
    let own : List (String × Json) := [("type", .str "release"), ("recipient", .str "r"),
      ("amount", .str "002A"), ("provenance", sampleRelease.provenance.toJson)]
    refine ⟨[("memo", .null)] ++ own.reverse, rfl, own, [("memo", .null)], ?_, ?_, ?_⟩
    · exact List.perm_append_comm.trans ((List.reverse_perm _).append_right _)
    · exact .cons ⟨rfl, rfl⟩ (.cons ⟨rfl, rfl⟩ (.cons ⟨rfl, hamount⟩
        (.cons ⟨rfl, Provenance.isSpelled_toJson _⟩ .nil)))
    · decide
  obtain ⟨hread, hwithout, -⟩ := (json_roundTrip sampleRelease).1 _ hspelled
  exact ⟨hspelled, hread, hwithout "recipient" (by decide)⟩

end Event

end BridgeWatch
