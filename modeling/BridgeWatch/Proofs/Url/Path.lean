import BridgeWatch.Proofs.Text.Blank
import BridgeWatch.Proofs.Url.Escape
import BridgeWatch.Url.Basic
import Mathlib.Data.List.TakeWhile

/-!
# What a text adds to a path

* `Path.pushAll_of_ordinary`: segments that are no dots are appended as they are.
* `Path.mem_drop_pushAll`: whatever is appended, what stands behind some of the first places are
  segments of it that are no dots, or empty ones.
* `splitTail_of_not_mem`, `not_mem_of_splitTail`: a text is all path exactly when it holds neither
  `#` nor `?`.
* `isLocated_of_parse`: a web address has a host and a path of segments.
-/

namespace BridgeWatch.Url

open Text.Utf8 (encode)

/-! ## Dots -/

namespace Path

variable {s : List Char} {ss path : Path}

theorem plainDots_eq_nil (h : plainDots s = []) : s = [] := by
  unfold plainDots at h
  split at h <;> first | rfl | cases h

/-- A segment in which a point comes first, plain or escaped. -/
theorem exists_of_plainDots_eq_cons {rest : List Char} (h : plainDots s = '.' :: rest) :
    ∃ s', unescape s = 46 :: unescape s' ∧ plainDots s' = rest := by
  unfold plainDots at h
  split at h
  · exact ⟨_, rfl, (List.cons.inj h).2⟩
  · exact ⟨_, rfl, (List.cons.inj h).2⟩
  · obtain ⟨rfl, hrest⟩ := List.cons.inj h
    exact ⟨_, rfl, hrest⟩
  · cases h

theorem unescape_of_isSingleDot (h : isSingleDot s = true) : unescape s = encode ['.'] := by
  obtain ⟨s', hs, hrest⟩ := exists_of_plainDots_eq_cons (eq_of_beq h)
  rw [hs, plainDots_eq_nil hrest]
  rfl

theorem unescape_of_isDoubleDot (h : isDoubleDot s = true) : unescape s = encode ['.', '.'] := by
  obtain ⟨s', hs, hrest⟩ := exists_of_plainDots_eq_cons (eq_of_beq h)
  obtain ⟨s'', hs', hrest'⟩ := exists_of_plainDots_eq_cons hrest
  rw [hs, hs', plainDots_eq_nil hrest']
  rfl

/-- A segment that means no place but itself. -/
def IsOrdinary (s : List Char) : Prop := isSingleDot s = false ∧ isDoubleDot s = false

theorem push_of_isOrdinary (h : IsOrdinary s) (path : Path) (isLast : Bool) :
    path.push s isLast = path ++ [s] := by
  rw [push, h.2, if_neg Bool.false_ne_true, h.1, if_neg Bool.false_ne_true]

/-- Segments that are no dots are appended as they are. -/
theorem pushAll_of_ordinary (h : ∀ s ∈ ss, IsOrdinary s) (path : Path) :
    path.pushAll ss = path ++ ss := by
  fun_induction pushAll path ss with
  | case1 path => exact (List.append_nil path).symm
  | case2 path s => exact push_of_isOrdinary (h s (.head _)) path true
  | case3 path s ss hne ih =>
    rw [List.forall_mem_cons] at h
    rw [ih h.2, push_of_isOrdinary h.1, List.append_assoc, List.singleton_append]

theorem mem_drop_push {x : List Char} {n : Nat} {isLast : Bool}
    (h : x ∈ (path.push s isLast).drop n) :
    x ∈ path.drop n ∨ x = [] ∨ (x = s ∧ IsOrdinary x) := by
  have appended {q : Path} {y : List Char} (hx : x ∈ (q ++ [y]).drop n) : x ∈ q.drop n ∨ x = y := by
    rw [List.drop_append, List.mem_append] at hx
    exact hx.imp_right fun hy => List.mem_singleton.1 (List.mem_of_mem_drop hy)
  have shorter (hx : x ∈ path.dropLast.drop n) : x ∈ path.drop n :=
    ((List.dropLast_sublist path).drop n).subset hx
  unfold push at h
  by_cases hdouble : isDoubleDot s = true
  · rw [if_pos hdouble] at h
    split at h
    · exact (appended h).imp shorter .inl
    · exact .inl (shorter h)
  · rw [if_neg hdouble] at h
    by_cases hsingle : isSingleDot s = true
    · rw [if_pos hsingle] at h
      split at h
      · exact (appended h).imp_right .inl
      · exact .inl h
    · rw [if_neg hsingle] at h
      refine (appended h).imp_right fun hx => .inr ⟨hx, ?_⟩
      rw [hx]
      exact ⟨Bool.eq_false_iff.2 hsingle, Bool.eq_false_iff.2 hdouble⟩

/-- What stands in a path behind some of its first places after segments were appended: what stood
there, an empty segment, or one of those appended that is no dots. -/
theorem mem_drop_pushAll {x : List Char} {n : Nat} (h : x ∈ (path.pushAll ss).drop n) :
    x ∈ path.drop n ∨ x = [] ∨ (x ∈ ss ∧ IsOrdinary x) := by
  have first {s : List Char} {ss : Path} (hx : x = s ∧ IsOrdinary x) : x ∈ s :: ss ∧ IsOrdinary x :=
    ⟨hx.1 ▸ .head _, hx.2⟩
  fun_induction pushAll path ss with
  | case1 path => exact .inl h
  | case2 path s => exact (mem_drop_push h).imp_right (.imp_right first)
  | case3 path s ss hne ih =>
    rcases ih h with h | h | ⟨h, hx⟩
    · exact (mem_drop_push h).imp_right (.imp_right first)
    · exact .inr (.inl h)
    · exact .inr (.inr ⟨.tail _ h, hx⟩)

/-- The path without the empty segment at its end. -/
def own (path : Path) : Path := path.asDirectory.dropLast

@[simp]
theorem own_concat_nil (path : Path) : own (path ++ [[]]) = path := by
  rw [own, asDirectory, if_pos (by simp), List.dropLast_concat]

@[simp]
theorem own_of_getLast?_ne (h : path.getLast? ≠ some []) : own path = path := by
  rw [own, asDirectory, if_neg h, List.dropLast_concat]

end Path

/-! ## Pieces -/

theorem pieces_sublist {p : Char → Bool} {cs piece : List Char} (h : piece ∈ Text.pieces p cs) :
    piece.Sublist cs ∧ ∀ c ∈ piece, p c = false := by
  induction cs generalizing piece with
  | nil =>
    obtain rfl := List.mem_singleton.1 h
    exact ⟨.slnil, nofun⟩
  | cons c cs ih =>
    obtain ⟨w, ws, hws⟩ := List.exists_cons_of_ne_nil (Text.pieces_ne_nil p cs)
    rw [Text.pieces, hws] at h
    rw [hws] at ih
    by_cases hc : p c = true
    · simp only [hc, if_true] at h
      rcases List.mem_cons.1 h with rfl | h
      · exact ⟨List.nil_sublist _, nofun⟩
      · exact ⟨(ih h).1.cons c, (ih h).2⟩
    · simp only [hc] at h
      rcases List.mem_cons.1 h with rfl | h
      · obtain ⟨hw, hclean⟩ := ih (.head _)
        refine ⟨hw.cons_cons c, ?_⟩
        rw [List.forall_mem_cons]
        exact ⟨Bool.eq_false_iff.2 hc, hclean⟩
      · obtain ⟨hw, hclean⟩ := ih (.tail _ h)
        exact ⟨hw.cons c, hclean⟩

/-! ## Path, query and fragment -/

variable {cs : List Char}

theorem not_mem_iff_dropWhile {d : Char} : d ∉ cs ↔ cs.dropWhile (· ≠ d) = [] := by
  rw [List.dropWhile_eq_nil_iff]
  simp only [decide_eq_true_eq]
  exact ⟨fun h c hc hd => h (hd ▸ hc), fun h hd => h d hd rfl⟩

theorem takeWhile_of_not_mem {d : Char} (h : d ∉ cs) : cs.takeWhile (· ≠ d) = cs := by
  rw [List.takeWhile_eq_self_iff]
  simp only [decide_eq_true_eq]
  exact fun c hc hd => h (hd ▸ hc)

/-- A text that holds neither `#` nor `?` is all path. -/
theorem splitTail_of_not_mem (hash : '#' ∉ cs) (mark : '?' ∉ cs) :
    splitTail cs = (cs, none, none) := by
  unfold splitTail
  simp only [takeWhile_of_not_mem hash, takeWhile_of_not_mem mark,
    not_mem_iff_dropWhile.1 hash, not_mem_iff_dropWhile.1 mark]

theorem not_mem_of_splitTail (query : (splitTail cs).2.1 = none)
    (fragment : (splitTail cs).2.2 = none) : '#' ∉ cs ∧ '?' ∉ cs := by
  unfold splitTail at query fragment
  dsimp only at query fragment
  have hash : '#' ∉ cs := by
    rw [not_mem_iff_dropWhile]
    split at fragment
    · assumption
    · cases fragment
  refine ⟨hash, ?_⟩
  rw [takeWhile_of_not_mem hash] at query
  rw [not_mem_iff_dropWhile]
  split at query
  · assumption
  · cases query

/-! ## Web addresses -/

/-- A URL has a host and a path that others can be relative to. -/
structure IsLocated (u : Url) : Prop where
  host : u.host.isSome = true
  path : ∃ path, u.path = .segments path

theorem readWeb_ne_empty (cs : List Char) : Host.readWeb cs ≠ .ok (.domain []) := by
  unfold Host.readWeb
  split
  · unfold Host.readIpv6
    split_ifs
    · split <;> simp
    · simp
  · dsimp only
    split_ifs with hforbidden hnil hnumber
    · simp
    · simp
    · cases Host.readIpv4 _ <;> simp [Except.map]
    · simpa using hnil

/-- A web address has a host. -/
theorem host_of_readHostPort {scheme userInfo : List Char} {host : Option Host}
    {port : Option Nat} (h : readHostPort .web scheme userInfo cs = .ok (host, port)) :
    host.isSome = true := by
  unfold readHostPort at h
  simp only [bind, Except.bind, pure, Except.pure, throw, throwThe, MonadExceptOf.throw,
    if_true, true_and] at h
  split at h
  · cases h
  cases hread : Host.readWeb (splitHost false cs).1 with
  | error f =>
    rw [hread] at h
    cases h
  | ok v =>
    have hv : (v == Host.domain []) = false := by
      rw [beq_eq_false_iff_ne]
      rintro rfl
      exact readWeb_ne_empty _ hread
    simp only [hread, hv, Bool.false_eq_true, false_and, if_false] at h
    cases hport : port? scheme (splitHost false cs).2 with
    | error f =>
      rw [hport] at h
      cases h
    | ok n =>
      simp only [hport, Except.ok.injEq, Prod.mk.injEq] at h
      rw [← h.1]
      rfl

theorem of_readAuthority {sort : SchemeSort} {scheme : List Char} {u : Url}
    (h : readAuthority sort scheme cs = .ok u) :
    u.scheme = scheme ∧ (sort = .web → u.IsLocated) := by
  unfold readAuthority at h
  simp only [bind, Except.bind, pure, Except.pure, throw, throwThe, MonadExceptOf.throw] at h
  split at h
  · cases h
  split at h
  · cases h
  rename_i v hread
  obtain ⟨host, port⟩ := v
  obtain rfl := Except.ok.inj h
  refine ⟨rfl, ?_⟩
  rintro rfl
  exact ⟨host_of_readHostPort hread, _, rfl⟩

theorem scheme_of_readFile {scheme : List Char} {u : Url} (h : readFile scheme cs = .ok u) :
    u.scheme = scheme := by
  unfold readFile at h
  simp only [bind, Except.bind, pure, Except.pure] at h
  split at h
  · split at h
    · cases h
    · obtain rfl := Except.ok.inj h
      rfl
  · obtain rfl := Except.ok.inj h
    rfl

/-- A web address has a host, and a path of segments. -/
theorem isLocated_of_parse {s : String} {u : Url} (h : parse s = .ok u)
    (web : sortOf u.scheme = .web) : u.IsLocated := by
  unfold parse at h
  split at h
  · rename_i scheme rest hsplit
    unfold readRest at h
    split at h
    · exact (of_readAuthority h).2 rfl
    · rename_i hsort
      rw [scheme_of_readFile h, hsort] at web
      cases web
    · rename_i hsort
      -- no other address is one of the web
      have hscheme : u.scheme = scheme := by
        split at h
        · exact (of_readAuthority h).1
        · obtain rfl := Except.ok.inj h
          rfl
        · obtain rfl := Except.ok.inj h
          rfl
      rw [hscheme, hsort] at web
      cases web
  · cases h

end BridgeWatch.Url
