import BridgeWatch.Ledger.Gateway
import BridgeWatch.Proofs.Url.Path

/-!
# Which record a lookup reads

A lookup puts the chain identifier into a route as it is, and the route is joined to the endpoint,
where some of its characters mean something.

* `ChainId.isPlain`: an identifier in which nothing means anything.
* `Gateway.Names`: a request for the height of a chain, which names the chain in one segment.
* `Gateway.lookups_exact`: the lookup of a chain is such a request exactly if its identifier is
  plain, and two chains of plain identifiers are looked up at different places.
* `Gateway.lookups_collide`: two chains of which the records are mixed up.
-/

namespace BridgeWatch

open Text.Utf8 (encode encode_injective)

/-- An identifier means what it says inside a route: it holds no separator, no mark of a query or
fragment, none of the characters that are dropped and no escape, and it is no dots. -/
def ChainId.isPlain (chain : ChainId) : Bool :=
  let cs := chain.text.toList
  cs.all (· ∉ ['/', '\\', '?', '#', '\t', '\n', '\r']) &&
    !Url.hasEscape cs && cs != ['.'] && cs != ['.', '.']

namespace Gateway

/-- The lookup of a chain sends a request, whatever carries it, and reads its reply. -/
def Sends (g : Gateway) (chain : ChainId) (q : Http.Request) : Prop :=
  ∀ {σ : Type} (t : Http.Transport σ) (s : σ), g.lastHeight t chain s =
    (readHeight (heightRoute chain) (t.send q s).1, (t.send q s).2)

/-- A request asks for the height of a chain, below a path: the chain is named in one segment, of
which the escapes stand for its identifier, and nothing but the path tells what is asked for. -/
structure Names (own : Url.Path) (chain : ChainId) (q : Http.Request) : Prop where
  method : q.method = .get
  path : ∃ w, Url.unescape w = encode chain.text.toList ∧
    q.url.path = .segments (own ++ ["chains".toList, w, "last-height".toList])
  query : q.url.query = none
  fragment : q.url.fragment = none

/-! ## Routes -/

/-- The route to the height of a chain with a given identifier. -/
def routeChars (cs : List Char) : List Char :=
  "chains".toList ++ '/' :: (cs ++ '/' :: "last-height".toList)

theorem routeChars_eq (cs : List Char) :
    routeChars cs = "chains".toList ++ '/' :: (cs ++ '/' :: "last-height".toList) := rfl

/-- What counts of an identifier in a URL. -/
def kept (cs : List Char) : List Char := cs.filter fun c => !Url.isInnerBlank c

theorem toList_heightRoute (chain : ChainId) :
    (heightRoute chain).toList = routeChars chain.text.toList := by
  rw [heightRoute, String.toList_append, String.toList_append, List.append_assoc]
  rfl

theorem stripped_routeChars (cs : List Char) :
    Url.stripped (routeChars cs) = routeChars (kept cs) := by
  have hlast : (routeChars cs).reverse.dropWhile Url.isOuterBlank = (routeChars cs).reverse := by
    rw [routeChars_eq, List.reverse_append, List.reverse_cons, List.reverse_append,
      List.reverse_cons, List.append_assoc, List.append_assoc, List.append_assoc]
    rfl
  have hfirst : (routeChars cs).dropWhile Url.isOuterBlank = routeChars cs := rfl
  unfold Url.stripped
  dsimp only
  rw [hfirst, hlast, List.reverse_reverse, routeChars_eq, List.filter_append,
    List.filter_cons_of_pos (by rfl), List.filter_append, List.filter_cons_of_pos (by rfl)]
  rfl

/-- Where a route leads from a path: the written segments of the route, taken one by one. -/
def segmentsOf (cs : List Char) : Url.Path :=
  "chains".toList :: (Text.pieces (Url.Path.isSlash true) cs).map (Url.escape Url.inPath) ++
    ["last-height".toList]

theorem extend_routeChars (own : Url.Path) (cs : List Char) :
    Url.Path.extend true own (routeChars cs) = own.pushAll (segmentsOf cs) := by
  have hchains : Text.pieces (Url.Path.isSlash true) "chains".toList = ["chains".toList] := rfl
  have hheight : Text.pieces (Url.Path.isSlash true) "last-height".toList =
      ["last-height".toList] := rfl
  rw [Url.Path.extend, routeChars_eq, Text.pieces_append_cons rfl, Text.pieces_append_cons rfl,
    hchains, hheight, List.map_append, List.map_append]
  rfl

/-- The URL to which the lookup of a chain leads from an endpoint. -/
def heightUrl (base : Url) (path : Url.Path) (chain : ChainId) : Url :=
  Url.withTail base (fun p => .segments (Url.Path.extend true path.own p))
    (routeChars (kept chain.text.toList))

variable {s : LedgerSettings} {g : Gateway} {endpoint : Url} {path own : Url.Path}
  {chain : ChainId} {q : Http.Request}

/-- The lookup of a chain sends one request. -/
theorem sends_heightUrl (hg : ofSettings s = .ok g) (hurl : Url.parse s.endpoint = .ok endpoint)
    (http : endpoint.scheme = "http".toList ∨ endpoint.scheme = "https".toList)
    (hpath : endpoint.path = .segments path) (chain : ChainId) :
    g.Sends chain ⟨.get, heightUrl endpoint.asDirectory path chain, none, none⟩ := by
  have hweb : Url.sortOf endpoint.scheme = .web := by rcases http with h | h <;> (rw [h]; rfl)
  have hhost := (Url.isLocated_of_parse hurl hweb).host
  have hg : g = ⟨endpoint.asDirectory, s.signerName⟩ := by
    unfold ofSettings at hg
    rw [hurl] at hg
    exact (Except.ok.inj hg).symm
  have hbase : endpoint.asDirectory = { endpoint with path := .segments path.asDirectory } := by
    rw [Url.asDirectory, hpath]
  have hroute : g.url (heightRoute chain) = .ok (heightUrl endpoint.asDirectory path chain) := by
    rw [hg, url, Url.resolve, toList_heightRoute, stripped_routeChars, hbase, hweb]
    rfl
  have hsendable : (Http.Request.mk .get (heightUrl endpoint.asDirectory path chain) none
      none).isSendable = true := by
    have hscheme : endpoint.scheme == "http".toList || endpoint.scheme == "https".toList := by
      simpa using http
    rw [hbase]
    show (true && endpoint.host.isSome && (endpoint.scheme == _ || endpoint.scheme == _)) = true
    rw [hhost, hscheme]
    rfl
  intro σ t s
  rw [lastHeight, hroute]
  show (readHeight _ (t.exchange _ s).1, (t.exchange _ s).2) = _
  rw [Http.Transport.exchange, if_pos hsendable]

/-! ## Plain identifiers -/

theorem isPlain_iff : chain.isPlain = true ↔
    (∀ c ∈ chain.text.toList, c ∉ ['/', '\\', '?', '#', '\t', '\n', '\r']) ∧
      Url.hasEscape chain.text.toList = false ∧ chain.text.toList ≠ ['.'] ∧
        chain.text.toList ≠ ['.', '.'] := by
  simp only [ChainId.isPlain, Bool.and_eq_true, List.all_eq_true, Bool.not_eq_true',
    decide_eq_true_eq, bne_iff_ne, and_assoc]

theorem kept_of_isPlain (h : chain.isPlain = true) :
    kept chain.text.toList = chain.text.toList := by
  refine List.filter_eq_self.2 fun c hc => ?_
  have hc := (isPlain_iff.1 h).1 c hc
  simp only [List.mem_cons, List.not_mem_nil, or_false, not_or] at hc
  simp [Url.isInnerBlank, hc]

theorem not_mem_routeChars {cs : List Char} {c : Char} (hcs : c ∉ cs)
    (hroute : c ∉ routeChars []) : c ∉ routeChars cs := by
  simp only [routeChars_eq, List.mem_append, List.mem_cons, not_or, List.nil_append] at hroute ⊢
  exact ⟨hroute.1, hroute.2.1, hcs, hroute.2.2⟩

/-- The lookup of a chain with a plain identifier names it. -/
theorem names_of_isPlain (h : chain.isPlain = true) (base : Url) (path : Url.Path) :
    Names path.own chain ⟨.get, heightUrl base path chain, none, none⟩ := by
  obtain ⟨hchars, hescape, hdot, hdots⟩ := isPlain_iff.1 h
  have lacks {c : Char} (hc : c ∈ ['/', '\\', '?', '#', '\t', '\n', '\r']) :
      c ∉ chain.text.toList := fun hmem => hchars c hmem hc
  have htail : Url.splitTail (routeChars chain.text.toList) =
      (routeChars chain.text.toList, none, none) :=
    Url.splitTail_of_not_mem (not_mem_routeChars (lacks (by decide)) (by decide))
      (not_mem_routeChars (lacks (by decide)) (by decide))
  have hmeaning : Url.unescape (Url.escape Url.inPath chain.text.toList) =
      encode chain.text.toList := by
    rw [Url.unescape_escape_inPath, Url.unescape_of_hasEscape_eq_false hescape]
  have hordinary : Url.Path.IsOrdinary (Url.escape Url.inPath chain.text.toList) := by
    refine ⟨Bool.eq_false_iff.2 fun hsingle => hdot ?_,
      Bool.eq_false_iff.2 fun hdouble => hdots ?_⟩
    · exact encode_injective (hmeaning.symm.trans (Url.Path.unescape_of_isSingleDot hsingle))
    · exact encode_injective (hmeaning.symm.trans (Url.Path.unescape_of_isDoubleDot hdouble))
  have hpieces : Text.pieces (Url.Path.isSlash true) chain.text.toList = [chain.text.toList] := by
    refine Text.pieces_of_solid fun c hc => ?_
    have hc := hchars c hc
    simp only [List.mem_cons, not_or] at hc
    simp [Url.Path.isSlash, hc]
  have hsegments : segmentsOf chain.text.toList =
      ["chains".toList, Url.escape Url.inPath chain.text.toList, "last-height".toList] := by
    rw [segmentsOf, hpieces]
    rfl
  have hpath : path.own.pushAll (segmentsOf chain.text.toList) =
      path.own ++ segmentsOf chain.text.toList := by
    refine Url.Path.pushAll_of_ordinary ?_ _
    rw [hsegments]
    simp only [List.forall_mem_cons]
    exact ⟨⟨rfl, rfl⟩, hordinary, ⟨rfl, rfl⟩, nofun⟩
  have hurl : heightUrl base path chain =
      { base with
        path := .segments (path.own ++ segmentsOf chain.text.toList)
        query := none
        fragment := none } := by
    rw [heightUrl, kept_of_isPlain h, Url.withTail, htail, ← hpath, ← extend_routeChars]
    rfl
  refine ⟨rfl, ⟨_, hmeaning, ?_⟩, ?_, ?_⟩
  · rw [hurl, hsegments]
  · rw [hurl]
  · rw [hurl]

/-- What a segment behind the path of the endpoint is made of. -/
theorem exists_of_mem_drop {w cs : List Char}
    (hw : w ∈ (own.pushAll (segmentsOf cs)).drop own.length) :
    w = [] ∨ Url.Path.IsOrdinary w ∧ ∃ piece, w = Url.escape Url.inPath piece ∧
      (piece = "chains".toList ∨ piece = "last-height".toList ∨
        piece ∈ Text.pieces (Url.Path.isSlash true) cs) := by
  rcases Url.Path.mem_drop_pushAll hw with hmem | hnil | ⟨hmem, hordinary⟩
  · rw [List.drop_length] at hmem
    cases hmem
  · exact .inl hnil
  · refine .inr ⟨hordinary, ?_⟩
    rw [segmentsOf, List.mem_append, List.mem_cons, List.mem_singleton] at hmem
    rcases hmem with (rfl | hmem) | rfl
    · exact ⟨_, rfl, .inl rfl⟩
    · obtain ⟨piece, hpiece, rfl⟩ := List.mem_map.1 hmem
      exact ⟨piece, rfl, .inr (.inr hpiece)⟩
    · exact ⟨_, rfl, .inr (.inl rfl)⟩

/-- A piece of what counts of a text stands for all of the text only if it is all of it, and has no
escape in it. -/
theorem eq_of_unescape_piece {cs piece : List Char}
    (hpiece : piece ∈ Text.pieces (Url.Path.isSlash true) (kept cs))
    (hmeaning : Url.unescape piece = encode cs) :
    piece = cs ∧ kept cs = cs ∧ Url.hasEscape cs = false := by
  have hsublist : piece.Sublist (kept cs) := (Url.pieces_sublist hpiece).1
  have hkept : (kept cs).Sublist cs := List.filter_sublist
  have hencode : (encode piece).Sublist (encode cs) :=
    Text.Utf8.encode_sublist (hsublist.trans hkept)
  have hle : (encode cs).length ≤ (encode piece).length := by
    rw [← hmeaning]
    exact Url.length_unescape_le piece
  obtain rfl : piece = cs := encode_injective (hencode.eq_of_length_le hle)
  exact ⟨rfl, hkept.eq_of_length_le hsublist.length_le, Url.unescape_eq_encode_iff.1 hmeaning⟩

/-- A character that separates nothing, is not dropped and starts no query or fragment is none of
those that mean something in a route. -/
theorem not_special {c : Char} (hslash : Url.Path.isSlash true c = false)
    (hkept : (!Url.isInnerBlank c) = true) (hmark : c ≠ '?') (hash : c ≠ '#') :
    c ∉ ['/', '\\', '?', '#', '\t', '\n', '\r'] := by
  intro hmem
  simp only [List.mem_cons, List.not_mem_nil, or_false] at hmem
  rcases hmem with rfl | rfl | rfl | rfl | rfl | rfl | rfl
  · cases hslash
  · cases hslash
  · exact hmark rfl
  · exact hash rfl
  · cases hkept
  · cases hkept
  · cases hkept

/-- If the lookup of a chain names it, its identifier is plain. -/
theorem isPlain_of_names (base : Url) (path : Url.Path)
    (h : Names path.own chain ⟨.get, heightUrl base path chain, none, none⟩) :
    chain.isPlain = true := by
  obtain ⟨w, hmeaning, hpath⟩ := h.path
  have hnot := Url.not_mem_of_splitTail (Option.map_eq_none_iff.1 h.query)
    (Option.map_eq_none_iff.1 h.fragment)
  have hpushed : path.own.pushAll (segmentsOf (kept chain.text.toList)) =
      path.own ++ ["chains".toList, w, "last-height".toList] := by
    rw [heightUrl, Url.withTail, Url.splitTail_of_not_mem hnot.1 hnot.2] at hpath
    rw [← extend_routeChars]
    exact UrlPath.segments.inj hpath
  have hw : w ∈ (path.own.pushAll (segmentsOf (kept chain.text.toList))).drop path.own.length := by
    rw [hpushed, List.drop_left]
    exact .tail _ (.head _)
  have named (text : String) (htext : Url.unescape w = encode text.toList)
      (hplain : (ChainId.mk text).isPlain = true) : chain.isPlain = true := by
    have : chain.text = text :=
      String.toList_injective (encode_injective (hmeaning.symm.trans htext))
    rwa [← this] at hplain
  rcases exists_of_mem_drop hw with rfl | ⟨hordinary, piece, rfl, hpiece⟩
  · exact named "" rfl (by decide)
  rw [Url.unescape_escape_inPath] at hmeaning named
  rcases hpiece with rfl | rfl | hpiece
  · exact named "chains" (by decide) (by decide)
  · exact named "last-height" (by decide) (by decide)
  obtain ⟨rfl, hkept, hescape⟩ := eq_of_unescape_piece hpiece hmeaning
  refine isPlain_iff.2 ⟨fun c hc => ?_, hescape, ?_, ?_⟩
  · have hroute : c ∈ routeChars (kept chain.text.toList) := by
      rw [hkept]
      exact List.mem_append_right _ (.tail _ (List.mem_append_left _ hc))
    refine not_special ((Url.pieces_sublist hpiece).2 c hc) (List.filter_eq_self.1 hkept c hc) ?_ ?_
    · rintro rfl
      exact hnot.2 hroute
    · rintro rfl
      exact hnot.1 hroute
  · intro hdot
    rw [hdot] at hordinary
    cases hordinary.1
  · intro hdots
    rw [hdots] at hordinary
    cases hordinary.2

/-! ## Places -/

/-- Requests that name different chains ask at different places. -/
theorem eq_of_target_eq {chain' : ChainId} {q' : Http.Request} (h : Names own chain q)
    (h' : Names own chain' q') (htarget : q.url.target = q'.url.target) : chain = chain' := by
  obtain ⟨w, hw, hpath⟩ := h.path
  obtain ⟨w', hw', hpath'⟩ := h'.path
  rw [Url.target, Url.target, h.query, h'.query, hpath, hpath'] at htarget
  have hsame : w = w' := by
    simpa [Url.Path.text] using htarget
  rw [hsame, hw'] at hw
  cases chain
  cases chain'
  exact congrArg ChainId.mk (String.toList_injective (encode_injective hw.symm))

/-- **Which record a lookup reads.** At an endpoint of the web, the lookup of each chain is one
request. It asks for the height of the chain below the path of the endpoint, with the chain in one
segment, exactly if the identifier of the chain is plain; so chains of plain identifiers are looked
up at different places. -/
theorem lookups_exact (hg : ofSettings s = .ok g) (hurl : Url.parse s.endpoint = .ok endpoint)
    (http : endpoint.scheme = "http".toList ∨ endpoint.scheme = "https".toList) :
    ∃ (path : Url.Path) (lookup : ChainId → Http.Request), endpoint.path = .segments path ∧
      (∀ chain, g.Sends chain (lookup chain)) ∧
      (∀ chain, Names path.own chain (lookup chain) ↔ chain.isPlain = true) ∧
      ∀ chain chain', chain.isPlain = true → chain'.isPlain = true → chain ≠ chain' →
        (lookup chain).url.target ≠ (lookup chain').url.target := by
  have hweb : Url.sortOf endpoint.scheme = .web := by rcases http with h | h <;> (rw [h]; rfl)
  obtain ⟨path, hpath⟩ := (Url.isLocated_of_parse hurl hweb).path
  have names_iff (chain : ChainId) : Names path.own chain
      ⟨.get, heightUrl endpoint.asDirectory path chain, none, none⟩ ↔ chain.isPlain = true :=
    ⟨isPlain_of_names _ path, fun h => names_of_isPlain h _ path⟩
  refine ⟨path, fun chain => ⟨.get, heightUrl endpoint.asDirectory path chain, none, none⟩, hpath,
    sends_heightUrl hg hurl http hpath, names_iff, ?_⟩
  intro chain chain' hplain hplain' hne htarget
  exact hne (eq_of_target_eq ((names_iff chain).2 hplain) ((names_iff chain').2 hplain') htarget)

/-- A gateway with a path of its own. -/
def sampleSettings : LedgerSettings :=
  { LedgerSettings.standard with endpoint := "http://gateway:1317/crosslink" }

/-- The endpoint of the sample. -/
def sampleEndpoint : Url :=
  ⟨"http".toList, [], some (.domain "gateway".toList), some 1317, .segments ["crosslink".toList],
    none, none⟩

theorem parse_sampleSettings : Url.parse sampleSettings.endpoint = .ok sampleEndpoint := by
  rfl

theorem ofSettings_sample :
    ofSettings sampleSettings = .ok ⟨sampleEndpoint.asDirectory, sampleSettings.signerName⟩ := by
  rw [ofSettings, parse_sampleSettings]

/-- The records of two plain chains at the sample. -/
theorem lookups_exact_sampleSettings : ∃ g q q', ofSettings sampleSettings = .ok g ∧
    g.Sends ⟨"goerli"⟩ q ∧ g.Sends ⟨"mumbai"⟩ q' ∧ q.url.target ≠ q'.url.target := by
  obtain ⟨path, lookup, -, hsends, -, hdiffer⟩ :=
    lookups_exact ofSettings_sample parse_sampleSettings (.inl rfl)
  exact ⟨_, lookup ⟨"goerli"⟩, lookup ⟨"mumbai"⟩, ofSettings_sample, hsends _, hsends _,
    hdiffer _ _ (by decide) (by decide) (by decide)⟩

/-- **Records are mixed up**: the lookups of two chains are one request, which names one of them. -/
theorem lookups_collide : ∃ g q, ofSettings sampleSettings = .ok g ∧
    g.Sends ⟨"goerli"⟩ q ∧ g.Sends ⟨"mumbai/../goerli"⟩ q ∧
      Names ["crosslink".toList] ⟨"goerli"⟩ q ∧
        ¬Names ["crosslink".toList] ⟨"mumbai/../goerli"⟩ q := by
  have sends := sends_heightUrl ofSettings_sample parse_sampleSettings (.inl rfl) rfl
  have hsame : heightUrl sampleEndpoint.asDirectory ["crosslink".toList] ⟨"mumbai/../goerli"⟩ =
      heightUrl sampleEndpoint.asDirectory ["crosslink".toList] ⟨"goerli"⟩ := rfl
  refine ⟨_, _, ofSettings_sample, sends ⟨"goerli"⟩, ?_,
    names_of_isPlain (by decide) _ ["crosslink".toList], fun h => ?_⟩
  · rw [← hsame]
    exact sends _
  · rw [← hsame] at h
    have hplain := isPlain_of_names _ ["crosslink".toList] h
    revert hplain
    decide

end Gateway

end BridgeWatch
