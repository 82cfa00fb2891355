import Krometrail.Control.AccessibilityTree
import Krometrail.Lib.Clips
import Krometrail.Lib.Forests

/-!
# The rendered text of the nodes of a DOM snapshot

The layout of a page gives texts to the nodes of its DOM.  A node keeps at most `maxSemanticQueryTextBytes` bytes of its
rendered text: its own texts with the whitespace collapsed, and then what its children keep, from the last node to the
first.  It also counts the bytes of the text before it was cut.
-/

namespace Krometrail.Control

open Clips Results

def maxSemanticQueryTextBytes : Nat := 1024

/-- The code points of a string. -/
abbrev Text := List Char

/-- `len`, in UTF-8. -/
def byteLength (text : Text) : Nat := total Char.utf8Size text

def splitWhitespace (text : Text) : List Text := (text.splitOnP isWhitespace).filter (· ≠ [])

/-- `join(" ")`. -/
def joinTexts (parts : List Text) : Text := [' '].intercalate parts

def collapseWhitespace (text : Text) : Text := joinTexts (splitWhitespace text)

/-- What is kept of the rendered text of a node, and the bytes of the text before it was cut. -/
structure RenderedText where
  rendered : Text
  collapsedBytes : Nat
  deriving DecidableEq, Inhabited

/-- `append_normalized_semantic_text`; `clip` is the longest prefix of whole characters that is available. -/
def appendNormalizedSemanticText (destination : RenderedText) (normalized : Text) (trueCollapsedBytes : Nat) :
    RenderedText :=
  if normalized.isEmpty then destination
  else
    let separator := if destination.rendered.isEmpty then 0 else 1
    let collapsedBytes := saturatingAdd (saturatingAdd destination.collapsedBytes separator) trueCollapsedBytes
    if byteLength destination.rendered ≥ maxSemanticQueryTextBytes then { destination with collapsedBytes }
    else
      let remaining := maxSemanticQueryTextBytes - byteLength destination.rendered
      if remaining ≤ separator then { destination with collapsedBytes }
      else
        { rendered := (if separator = 1 then destination.rendered ++ [' '] else destination.rendered) ++
            clip Char.utf8Size (remaining - separator) normalized
          collapsedBytes }

def appendSemanticText (destination : RenderedText) (value : Text) : RenderedText :=
  let normalized := collapseWhitespace value
  if normalized.isEmpty then destination
  else appendNormalizedSemanticText destination normalized (byteLength normalized)

def appendSemanticTextSummary (destination child : RenderedText) : RenderedText :=
  appendNormalizedSemanticText destination child.rendered child.collapsedBytes

/-- An entry of the layout table: the node, if the index is a number, and the text, if the index of its string is valid; an
entry may have no text. -/
structure LayoutEntry where
  nodeIndex : Option Nat
  text : Option (Option Text)

/-- The bytes of text so far and the table of the nodes, with an entry of the layout taken in. -/
def appendLayout (forest : Forest) (state : Nat × List RenderedText) (entry : LayoutEntry) :
    Result (Nat × List RenderedText) := do
  let nodeIndex ← okOr (entry.nodeIndex.filter (· < forest.size)) (malformed "DOM snapshot layout node index is invalid")
  let text ← okOr entry.text (malformed "DOM snapshot layout-text string index is invalid")
  match text with
  | none => pure state
  | some text =>
    let textBytes := saturatingAdd state.1 (byteLength text)
    if textBytes > maxSnapshotTextBytes then .error (malformed "DOM snapshot exceeds the semantic text limit")
    else pure (textBytes, state.2.modify nodeIndex (appendSemanticText · text))

/-- The texts of `decode_dom_snapshot_with_geometry`, whose nodes have been decoded and hold `textBytes` bytes of text. -/
def renderedTexts (forest : Forest) (layout : List LayoutEntry) (textBytes : Nat) : Result (List RenderedText) := do
  let state ← layout.foldlM (appendLayout forest) (textBytes, List.replicate forest.size default)
  pure (forest.sweep appendSemanticTextSummary state.2)

def layoutTexts (layout : List LayoutEntry) : List Text := layout.filterMap (·.text.join)

/-- The texts that the layout gives a node. -/
def ownTexts (layout : List LayoutEntry) (node : Nat) : List Text :=
  layoutTexts (layout.filter (·.nodeIndex = some node))

/-- The full text of a node: the collapsed texts of its own and the full texts of its children, without the empty ones. -/
def fullText (forest : Forest) (layout : List LayoutEntry) (node : Nat) : Text :=
  forest.fold (fun node children =>
    joinTexts (((ownTexts layout node).map collapseWhitespace ++ children).filter (· ≠ []))) node

def textParts (forest : Forest) (layout : List LayoutEntry) (node : Nat) : List Text :=
  ((ownTexts layout node).map collapseWhitespace ++
    (forest.children node).map (fullText forest layout)).filter (· ≠ [])

theorem fullText_eq (forest : Forest) (layout : List LayoutEntry) (node : Nat) :
    fullText forest layout node = joinTexts (textParts forest layout node) := Forest.fold_eq ..

/-- What a node keeps is a bounded prefix of its full text, whose bytes are counted. -/
structure BoundedPrefix (full : Text) (kept : RenderedText) : Prop where
  bounded : byteLength kept.rendered ≤ maxSemanticQueryTextBytes
  rendered : kept.rendered <+: full
  counted : kept.collapsedBytes = byteLength full

/-- The bound is passed within or before a part that has parts behind it, at a character which leaves at least two bytes
below the bound. -/
def Splits (parts : List Text) : Prop :=
  ∃ before after, parts = before ++ after ∧ after ≠ [] ∧ maxSemanticQueryTextBytes < byteLength (joinTexts before) ∧
    byteLength (clip Char.utf8Size maxSemanticQueryTextBytes (joinTexts before)) + 2 ≤ maxSemanticQueryTextBytes

end Krometrail.Control

/-!
## What is kept of a rendered text

A part that is appended to a full text keeps what is kept of it a prefix, unless the text was cut before at a character that
left room behind it (`Kept.append`).  The bytes are counted in any case.
-/

namespace Krometrail.Control

open Clips Results

theorem utf8Size_pos (c : Char) : 0 < c.utf8Size := c.utf8Size_pos

variable {parts : List Text} {kept part shown text : Text} {node textBytes : Nat} {table : List RenderedText}
  {last : Nat × List RenderedText}

theorem joinTexts_concat (part : Text) (h : parts ≠ []) : joinTexts (parts ++ [part]) = joinTexts parts ++ ' ' :: part := by
  induction parts with
  | nil => exact absurd rfl h
  | cons first parts ih =>
    cases parts with
    | nil => simp [joinTexts]
    | cons second parts =>
      have hrest := ih (List.cons_ne_nil _ _)
      simp only [joinTexts, List.cons_append, List.intercalate_cons_cons, List.append_assoc] at hrest ⊢
      rw [hrest]

theorem joinTexts_starts (before after : List Text) : joinTexts before <+: joinTexts (before ++ after) := by
  induction after using List.reverseRecOn with
  | nil => rw [List.append_nil]
  | append_singleton after part ih =>
    rw [← List.append_assoc]
    by_cases hnil : before ++ after = []
    · obtain ⟨rfl, rfl⟩ := List.append_eq_nil_iff.1 hnil
      exact List.nil_prefix
    · rw [joinTexts_concat part hnil]
      exact ih.trans (List.prefix_append ..)

theorem joinTexts_eq_nil (h : ∀ part ∈ parts, part ≠ []) : joinTexts parts = [] ↔ parts = [] := by
  refine ⟨fun hjoin => ?_, fun hparts => hparts ▸ rfl⟩
  cases parts with
  | nil => rfl
  | cons part parts =>
    have hfirst : part <+: joinTexts (part :: parts) := by
      simpa [joinTexts] using joinTexts_starts [part] parts
    exact absurd (List.prefix_nil.1 (hjoin ▸ hfirst)) (h part List.mem_cons_self)

/-! ### Cutting -/

theorem splits_concat : Splits (parts ++ [part]) ↔ Splits parts ∨
    maxSemanticQueryTextBytes < byteLength (joinTexts parts) ∧
      byteLength (clip Char.utf8Size maxSemanticQueryTextBytes (joinTexts parts)) + 2 ≤ maxSemanticQueryTextBytes := by
  constructor
  · rintro ⟨before, after, hparts, hafter, hcut⟩
    obtain ⟨rest, last, rfl⟩ := (List.eq_nil_or_concat after).resolve_left hafter
    rw [List.concat_eq_append, ← List.append_assoc] at hparts
    obtain ⟨rfl, -⟩ := List.append_inj' hparts rfl
    cases rest with
    | nil => exact .inr (by rwa [List.append_nil])
    | cons a rest => exact .inl ⟨before, a :: rest, rfl, List.cons_ne_nil _ _, hcut⟩
  · rintro (⟨before, after, rfl, hafter, hcut⟩ | hcut)
    · exact ⟨before, after ++ [part], List.append_assoc .., by simp, hcut⟩
    · exact ⟨parts, [part], rfl, List.cons_ne_nil _ _, hcut⟩

/-- What can be shown of a text: a prefix that holds its clip or reaches the bound up to a byte. -/
structure Shows (text shown : Text) : Prop where
  isPrefix : shown <+: text
  reaches : clip Char.utf8Size maxSemanticQueryTextBytes text <+: shown ∨
    maxSemanticQueryTextBytes ≤ byteLength shown + 1

theorem shows_self (text : Text) : Shows text text := ⟨List.prefix_rfl, .inl (clip_starts _ _)⟩

theorem Shows.clip_eq (h : Shows text shown) {bound : Nat} (hbound : bound + 1 ≤ maxSemanticQueryTextBytes) :
    clip Char.utf8Size bound shown = clip Char.utf8Size bound text := by
  refine clip_of_starts utf8Size_pos h.isPrefix (h.reaches.imp ?_ ?_)
  · exact (clip_mono (by omega) text).trans
  · intro hreach
    exact Nat.le_of_succ_le_succ (hbound.trans hreach)

theorem Shows.clip (h : Shows text shown) : Shows text (clip Char.utf8Size maxSemanticQueryTextBytes shown) := by
  refine ⟨(clip_starts _ _).trans h.isPrefix, ?_⟩
  rcases lt_or_ge maxSemanticQueryTextBytes (byteLength shown) with hlt | hge
  · exact .inl (clip_of_starts utf8Size_pos h.isPrefix (.inr hlt.le) ▸ List.prefix_rfl)
  · rw [clip_eq_self hge]
    exact h.reaches

/-- What `append_normalized_semantic_text` makes of the text that is kept. -/
def attach (kept shown : Text) : Text :=
  if shown = [] then kept
  else if kept = [] then clip Char.utf8Size maxSemanticQueryTextBytes shown
  else if maxSemanticQueryTextBytes ≤ byteLength kept + 1 then kept
  else kept ++ ' ' :: clip Char.utf8Size (maxSemanticQueryTextBytes - byteLength kept - 1) shown

theorem rendered_append (destination : RenderedText) (normalized : Text) (trueCollapsedBytes : Nat) :
    (appendNormalizedSemanticText destination normalized trueCollapsedBytes).rendered =
      attach destination.rendered normalized := by
  unfold appendNormalizedSemanticText attach
  by_cases hnormalized : normalized = []
  · simp [hnormalized]
  by_cases hkept : destination.rendered = []
  · simp [hnormalized, hkept, byteLength, maxSemanticQueryTextBytes]
  · simp only [List.isEmpty_iff, hnormalized, hkept, ↓reduceIte, ge_iff_le]
    split
    · rw [if_pos (by omega)]
    split
    · rw [if_pos (by omega)]
    · rw [if_neg (by omega), List.append_assoc]
      rfl

theorem attach_extends (kept shown : Text) : kept <+: attach kept shown := by
  unfold attach
  split
  · exact List.prefix_rfl
  split
  · rename_i hkept
    exact hkept ▸ List.nil_prefix
  split
  · exact List.prefix_rfl
  · exact List.prefix_append ..

/-- The text that is kept has gone astray: behind a common prefix it has a space where the full text has none. -/
def Astray (full kept : Text) : Prop :=
  ∃ common next, common ++ [' '] <+: kept ∧ common ++ [next] <+: full ∧ next ≠ ' '

theorem Astray.not_starts {full : Text} (h : Astray full kept) : ¬ kept <+: full := by
  obtain ⟨common, next, hkept, hfull, hne⟩ := h
  intro hprefix
  have heq := List.prefix_of_prefix_length_le hfull (hkept.trans hprefix) (by simp)
  have hlast := heq.eq_of_length (by simp)
  exact hne (List.singleton_inj.1 (List.append_cancel_left hlast))

/-- What is kept of the joined parts. -/
def Kept (parts : List Text) (kept : Text) : Prop :=
  ¬ Splits parts ∧ Shows (joinTexts parts) kept ∧ byteLength kept ≤ maxSemanticQueryTextBytes ∧
      (kept = [] ↔ parts = []) ∨
    Splits parts ∧ Astray (joinTexts parts) kept ∧ kept ≠ []

theorem clip_ne_nil (h : text ≠ []) : clip Char.utf8Size maxSemanticQueryTextBytes text ≠ [] := by
  cases text with
  | nil => exact absurd rfl h
  | cons c text =>
    have hfits : c.utf8Size ≤ maxSemanticQueryTextBytes := (Char.utf8Size_le_four c).trans (by decide)
    rw [clip, if_pos hfits]
    exact List.cons_ne_nil _ _

theorem attach_ne_nil (h : shown ≠ []) : attach kept shown ≠ [] := by
  by_cases hkept : kept = []
  · rw [hkept, attach, if_neg h, if_pos rfl]
    exact clip_ne_nil h
  · exact fun hnil => hkept (List.prefix_nil.1 (hnil ▸ attach_extends kept shown))

theorem not_splits_nil : ¬ Splits [] := by
  rintro ⟨before, after, hparts, hafter, -⟩
  exact hafter (List.append_eq_nil_iff.1 hparts.symm).2

theorem kept_first (hshown : shown ≠ []) (hpart : Shows part shown) : Kept ([] ++ [part]) (attach [] shown) := by
  have hattach : attach [] shown = clip Char.utf8Size maxSemanticQueryTextBytes shown := by
    rw [attach, if_neg hshown, if_pos rfl]
  have hjoin : joinTexts ([] ++ [part]) = part := List.intercalate_singleton
  refine .inl ⟨fun hsplits => ?_, ?_, ?_, ?_⟩
  · rcases splits_concat.1 hsplits with hnil | ⟨hlt, -⟩
    · exact not_splits_nil hnil
    · exact absurd hlt (Nat.not_lt_zero _)
  · rw [hattach, hjoin]
    exact hpart.clip
  · rw [hattach]
    exact total_clip_le _ _
  · exact iff_of_false (attach_ne_nil hshown) (List.cons_ne_nil _ _)

theorem attach_whole (htext : text ≠ []) (hroom : byteLength text + 1 < maxSemanticQueryTextBytes) (hshown : shown ≠ [])
    (hpart : Shows part shown) : attach text shown = clip Char.utf8Size maxSemanticQueryTextBytes (text ++ ' ' :: part) := by
  have hspace : Char.utf8Size ' ' = 1 := rfl
  have hclip : clip Char.utf8Size (maxSemanticQueryTextBytes - byteLength text) (' ' :: part) =
      ' ' :: clip Char.utf8Size (maxSemanticQueryTextBytes - byteLength text - 1) part := by
    rw [clip, if_pos (by omega), hspace]
  have hwhole : total Char.utf8Size text ≤ maxSemanticQueryTextBytes := by
    change byteLength text ≤ _
    omega
  rw [attach, if_neg hshown, if_neg htext, if_neg (by omega), hpart.clip_eq (by omega), clip_append hwhole]
  exact congrArg (text ++ ·) hclip.symm

theorem Kept.append (h : Kept parts kept) (hshown : shown ≠ []) (hpart : Shows part shown)
    : Kept (parts ++ [part]) (attach kept shown) := by
  have hnext : attach kept shown ≠ [] := attach_ne_nil hshown
  have hconcat : parts ++ [part] ≠ [] := by simp
  rcases h with ⟨hsplits, hshows, hbounded, hempty⟩ | ⟨hsplits, ⟨common, next, hkept, hfull, hne⟩, hnil⟩
  swap
  · exact .inr ⟨splits_concat.2 (.inl hsplits), ⟨common, next, hkept.trans (attach_extends _ _),
      hfull.trans (joinTexts_starts _ _), hne⟩, hnext⟩
  by_cases hparts : parts = []
  · obtain rfl := hparts
    obtain rfl := hempty.2 rfl
    exact kept_first hshown hpart
  have hkept : kept ≠ [] := fun hnil => hparts (hempty.1 hnil)
  have hclip := prefix_clip hshows.isPrefix hbounded
  by_cases hfull : maxSemanticQueryTextBytes ≤ byteLength kept + 1
  · -- nothing more fits, and nothing was lost below the bound
    have hattach : attach kept shown = kept := by rw [attach, if_neg hshown, if_neg hkept, if_pos hfull]
    rw [hattach]
    refine .inl ⟨fun hnew => ?_, ⟨hshows.isPrefix.trans (joinTexts_starts _ _), .inr hfull⟩, hbounded,
      iff_of_false hkept hconcat⟩
    rcases splits_concat.1 hnew with hold | ⟨-, hcut⟩
    · exact hsplits hold
    · have hle : byteLength kept ≤ byteLength _ := total_le_of_starts hclip
      omega
  have heq : kept = clip Char.utf8Size maxSemanticQueryTextBytes (joinTexts parts) :=
    (hclip.eq_of_length_le (hshows.reaches.resolve_right hfull).length_le)
  rcases lt_or_ge maxSemanticQueryTextBytes (byteLength (joinTexts parts)) with hcut | hwhole
  · -- the text was cut before, with room behind it
    obtain ⟨next, rest, htext, hnextSize⟩ := exists_next hcut
    rw [← heq] at htext hnextSize
    refine .inr ⟨splits_concat.2 (.inr ⟨hcut, heq ▸ by omega⟩), ⟨kept, next, ?_, ?_, ?_⟩, hnext⟩
    · rw [attach, if_neg hshown, if_neg hkept, if_neg hfull]
      exact (List.prefix_append_right_inj kept).2 ((List.prefix_cons_inj _).2 List.nil_prefix)
    · refine List.IsPrefix.trans ⟨rest, ?_⟩ (joinTexts_starts parts [part])
      rw [List.append_assoc, htext]
      rfl
    · rintro rfl
      have hspace : Char.utf8Size ' ' = 1 := rfl
      change _ < byteLength kept + _ at hnextSize
      omega
  · rw [clip_eq_self hwhole] at heq
    obtain rfl := heq
    have hattach := attach_whole hkept (by omega) hshown hpart
    have hjoin := joinTexts_concat part hparts
    refine .inl ⟨fun hnew => ?_, ?_, ?_, iff_of_false hnext hconcat⟩
    · rcases splits_concat.1 hnew with hold | ⟨hlt, -⟩
      · exact hsplits hold
      · omega
    · rw [hattach, hjoin]
      exact (shows_self _).clip
    · rw [hattach]
      exact total_clip_le _ _

/-! ### Counting -/

theorem byteLength_concat (part : Text) (h : parts ≠ []) :
    byteLength (joinTexts (parts ++ [part])) = byteLength (joinTexts parts) + 1 + byteLength part := by
  have hspace : Char.utf8Size ' ' = 1 := rfl
  rw [joinTexts_concat part h, byteLength, total_append, total_cons, hspace, byteLength, byteLength]
  omega

theorem byteLength_joinTexts (parts : List Text) (h : parts ≠ []) :
    byteLength (joinTexts parts) + 1 = (parts.map (byteLength · + 1)).sum := by
  induction parts using List.reverseRecOn with
  | nil => exact absurd rfl h
  | append_singleton parts part ih =>
    by_cases hparts : parts = []
    · subst hparts
      simp [joinTexts]
    · rw [byteLength_concat part hparts, List.map_append, List.sum_append, ← ih hparts]
      simp
      omega

theorem collapsedBytes_append {destination : RenderedText} {normalized : Text} (h : normalized ≠ [])
    (trueCollapsedBytes : Nat) :
    (appendNormalizedSemanticText destination normalized trueCollapsedBytes).collapsedBytes =
      saturatingAdd (saturatingAdd destination.collapsedBytes (if destination.rendered = [] then 0 else 1))
        trueCollapsedBytes := by
  unfold appendNormalizedSemanticText
  simp only [List.isEmpty_iff, h, ↓reduceIte]
  split
  · rfl
  · rw [apply_ite RenderedText.collapsedBytes, ite_self]

/-- What a node keeps of the parts that it has taken in so far. -/
structure Keeps (parts : List Text) (node : RenderedText) : Prop where
  kept : Kept parts node.rendered
  counted : node.collapsedBytes = min (byteLength (joinTexts parts)) u64Max

theorem Kept.nil_iff (h : Kept parts kept) : kept = [] ↔ parts = [] := by
  rcases h with ⟨-, -, -, hempty⟩ | ⟨hsplits, -, hnil⟩
  · exact hempty
  · exact iff_of_false hnil fun hparts => not_splits_nil (hparts ▸ hsplits)

theorem keeps_default : Keeps [] default := by
  refine ⟨.inl ⟨not_splits_nil, shows_self [], Nat.zero_le _, iff_of_true rfl rfl⟩, ?_⟩
  rfl

theorem Keeps.append {node : RenderedText} (h : Keeps parts node) {bytes : Nat} (hshown : shown ≠ []) (hpart : Shows part shown)
    (hbytes : min bytes u64Max = min (byteLength part) u64Max) :
    Keeps (parts ++ [part]) (appendNormalizedSemanticText node shown bytes) := by
  refine ⟨rendered_append node shown bytes ▸ h.kept.append hshown hpart, ?_⟩
  rw [collapsedBytes_append hshown, h.counted]
  by_cases hparts : parts = []
  · have hjoin : joinTexts (parts ++ [part]) = part := by rw [hparts]; exact List.intercalate_singleton
    rw [if_pos (h.kept.nil_iff.2 hparts), hjoin, hparts, saturatingAdd, saturatingAdd]
    change min (min (min 0 u64Max + 0) u64Max + bytes) u64Max = _
    omega
  · rw [if_neg fun hnil => hparts (h.kept.nil_iff.1 hnil), byteLength_concat part hparts, saturatingAdd, saturatingAdd]
    omega

theorem Keeps.appendAll {ι : Type} {part shown : ι → Text} {bytes : ι → Nat} {items : List ι}
    (hitems : ∀ item ∈ items, (shown item = [] ↔ part item = []) ∧ Shows (part item) (shown item) ∧
      min (bytes item) u64Max = min (byteLength (part item)) u64Max)
    {node : RenderedText} (h : Keeps parts node) :
    Keeps (parts ++ (items.map part).filter (· ≠ []))
      (items.foldl (fun node item => appendNormalizedSemanticText node (shown item) (bytes item)) node) := by
  induction items generalizing parts node with
  | nil => simpa using h
  | cons item items ih =>
    obtain ⟨hempty, hshows, hbytes⟩ := hitems item List.mem_cons_self
    have hrest := fun other hother => hitems other (List.mem_cons_of_mem item hother)
    rw [List.foldl_cons, List.map_cons]
    by_cases hshown : shown item = []
    · have hskip : appendNormalizedSemanticText node (shown item) (bytes item) = node := by
        simp [appendNormalizedSemanticText, hshown]
      rw [hskip, List.filter_cons_of_neg (by simpa using hempty.1 hshown)]
      exact ih hrest h
    · have hpart : part item ≠ [] := fun hnil => hshown (hempty.2 hnil)
      rw [List.filter_cons_of_pos (by simpa using hpart)]
      simpa using ih hrest (h.append hshown hshows hbytes)

theorem appendSemanticText_eq (destination : RenderedText) (value : Text) : appendSemanticText destination value =
    appendNormalizedSemanticText destination (collapseWhitespace value) (byteLength (collapseWhitespace value)) := by
  unfold appendSemanticText
  dsimp only
  split
  · rename_i hempty
    rw [appendNormalizedSemanticText, if_pos hempty]
  · rfl

theorem splitWhitespace_le (text : Text) :
    ((text.splitOnP isWhitespace).map (byteLength · + 1)).sum ≤ byteLength text + 1 := by
  induction text with
  | nil => simp [byteLength]
  | cons c text ih =>
    have hpos := utf8Size_pos c
    rw [List.splitOnP_cons_eq_if_modifyHead, byteLength, total_cons]
    split
    · rw [List.map_cons, List.sum_cons]
      change 0 + 1 + _ ≤ c.utf8Size + byteLength text + 1
      omega
    · obtain ⟨first, rest, hsplit⟩ := List.exists_cons_of_ne_nil (List.splitOnP_ne_nil isWhitespace text)
      rw [hsplit] at ih ⊢
      simp only [List.modifyHead_cons, List.map_cons, List.sum_cons, byteLength, total_cons] at ih ⊢
      omega

theorem sum_filter_le {ι : Type*} (weight : ι → Nat) (p : ι → Bool) (items : List ι) :
    ((items.filter p).map weight).sum ≤ (items.map weight).sum :=
  ((List.filter_sublist).map weight).sum_le_sum fun _ _ => Nat.zero_le _

theorem byteLength_collapse (text : Text) : byteLength (collapseWhitespace text) ≤ byteLength text := by
  by_cases hnil : splitWhitespace text = []
  · rw [collapseWhitespace, hnil]
    exact Nat.zero_le _
  · have hjoin := byteLength_joinTexts (splitWhitespace text) hnil
    have hfilter := sum_filter_le (byteLength · + 1) (· ≠ []) (text.splitOnP isWhitespace)
    have hsplit := splitWhitespace_le text
    rw [collapseWhitespace]
    unfold splitWhitespace at hjoin ⊢
    omega

/-! ### The table of a snapshot -/

variable {forest : Forest} {layout : List LayoutEntry}

theorem ownTexts_cons (entry : LayoutEntry) (layout : List LayoutEntry) (node : Nat) :
    ownTexts (entry :: layout) node =
      (if entry.nodeIndex = some node then entry.text.join.toList else []) ++ ownTexts layout node := by
  unfold ownTexts layoutTexts
  by_cases hnode : entry.nodeIndex = some node
  · rw [List.filter_cons_of_pos (by simpa using hnode), if_pos hnode]
    cases htext : entry.text.join <;> simp [htext]
  · rw [List.filter_cons_of_neg (by simpa using hnode), if_neg hnode, List.nil_append]

theorem layoutTexts_cons (entry : LayoutEntry) (layout : List LayoutEntry) :
    layoutTexts (entry :: layout) = entry.text.join.toList ++ layoutTexts layout := by
  cases htext : entry.text.join <;> simp [layoutTexts, htext]

theorem appendLayout_eq_ok {entry : LayoutEntry} {next : Nat × List RenderedText}
    (h : appendLayout forest (textBytes, table) entry = .ok next) :
    ∃ node, entry.nodeIndex = some node ∧
      (entry.text.join = none ∧ next = (textBytes, table) ∨
        ∃ text, entry.text.join = some text ∧ textBytes + byteLength text ≤ maxSnapshotTextBytes ∧
          next = (textBytes + byteLength text, table.modify node (appendSemanticText · text))) := by
  obtain ⟨node, hnode, h⟩ := bind_eq_ok.1 h
  obtain ⟨text, htext, h⟩ := bind_eq_ok.1 h
  refine ⟨node, (Option.filter_eq_some_iff.1 (okOr_eq_ok.1 hnode)).1, ?_⟩
  rw [okOr_eq_ok] at htext
  rw [htext, Option.join_some]
  cases text with
  | none => exact .inl ⟨rfl, (Except.ok.inj h).symm⟩
  | some text =>
    dsimp only at h
    split at h
    · cases h
    · rename_i hle
      have hbound : maxSnapshotTextBytes < u64Max := by decide
      rw [saturatingAdd, not_lt] at hle
      have hsum : saturatingAdd textBytes (byteLength text) = textBytes + byteLength text := by
        rw [saturatingAdd]
        omega
      exact .inr ⟨text, rfl, by omega, by rw [← Except.ok.inj h, hsum]⟩

theorem foldlM_appendLayout (h : layout.foldlM (appendLayout forest) (textBytes, table) = .ok last) :
    last.2.length = table.length ∧
      (∀ node < table.length, last.2[node]! = (ownTexts layout node).foldl appendSemanticText table[node]!) ∧
      (layoutTexts layout = [] ∨ textBytes + ((layoutTexts layout).map byteLength).sum ≤ maxSnapshotTextBytes) := by
  induction layout generalizing textBytes table with
  | nil =>
    cases h
    exact ⟨rfl, fun _ _ => rfl, .inl rfl⟩
  | cons entry layout ih =>
    rw [List.foldlM_cons] at h
    obtain ⟨next, hnext, h⟩ := bind_eq_ok.1 h
    obtain ⟨index, hindex, ⟨hnone, rfl⟩ | ⟨text, htext, hle, rfl⟩⟩ := appendLayout_eq_ok hnext
    · obtain ⟨hlength, hentries, hbytes⟩ := ih h
      refine ⟨hlength, fun node hnode => ?_, ?_⟩
      · rw [hentries node hnode, ownTexts_cons, hnone]
        simp
      · simpa [layoutTexts_cons, hnone] using hbytes
    · obtain ⟨hlength, hentries, hbytes⟩ := ih h
      rw [List.length_modify] at hlength hentries
      refine ⟨hlength, fun node hnode => ?_, .inr ?_⟩
      · rw [hentries node hnode, ownTexts_cons, htext, hindex]
        by_cases heq : index = node
        · obtain rfl := heq
          simp [hnode]
        · have hne : some index ≠ some node := fun h => heq (Option.some.inj h)
          simp [List.getElem!_eq_getElem?_getD, heq]
      · rw [layoutTexts_cons, htext]
        rcases hbytes with hnil | hsum
        · simpa [hnil] using hle
        · simp only [Option.toList_some, List.singleton_append, List.map_cons, List.sum_cons]
          omega

/-- Twice the bytes that the layout gives a node, as room for the spaces. -/
def ownWeight (layout : List LayoutEntry) (node : Nat) : Nat := ((ownTexts layout node).map fun text => 2 * byteLength text).sum

theorem sum_ownWeight_le (layout : List LayoutEntry) (count : Nat) :
    ∑ node ∈ Finset.range count, ownWeight layout node ≤ 2 * ((layoutTexts layout).map byteLength).sum := by
  induction layout with
  | nil => simp [ownWeight, ownTexts, layoutTexts]
  | cons entry layout ih =>
    have hcons : ∀ node, ownWeight (entry :: layout) node =
        (if entry.nodeIndex = some node then 2 * (entry.text.join.toList.map byteLength).sum else 0) +
          ownWeight layout node := fun node => by
      rw [ownWeight, ownTexts_cons, List.map_append, List.sum_append, ownWeight]
      congr 1
      split <;> cases entry.text.join <;> simp
    have hentry : ∑ node ∈ Finset.range count,
        (if entry.nodeIndex = some node then 2 * (entry.text.join.toList.map byteLength).sum else 0) ≤
          2 * (entry.text.join.toList.map byteLength).sum := by
      cases entry.nodeIndex with
      | none => simp
      | some index =>
        simp only [Option.some.injEq, Finset.sum_ite_eq]
        split
        · exact le_rfl
        · exact Nat.zero_le _
    rw [Finset.sum_congr rfl fun node _ => hcons node, Finset.sum_add_distrib, layoutTexts_cons, List.map_append,
      List.sum_append]
    omega

theorem sum_parts_le {ι : Type*} (part : ι → Text) (weight : ι → Nat) {items : List ι}
    (h : ∀ item ∈ items, part item ≠ [] → byteLength (part item) < weight item) :
    ((((items.map part).filter (· ≠ [])).map (byteLength · + 1)).sum) ≤ (items.map weight).sum := by
  induction items with
  | nil => exact le_rfl
  | cons item items ih =>
    have hitem := h item List.mem_cons_self
    have hrest := ih fun other hother => h other (List.mem_cons_of_mem item hother)
    rw [List.map_cons, List.map_cons, List.sum_cons]
    by_cases hpart : part item = []
    · rw [List.filter_cons_of_neg (by simpa using hpart)]
      exact hrest.trans (Nat.le_add_left _ _)
    · rw [List.filter_cons_of_pos (by simpa using hpart), List.map_cons, List.sum_cons]
      exact Nat.add_le_add (hitem hpart) hrest

theorem byteLength_fullText_lt (forest : Forest) (layout : List LayoutEntry) (node : Nat)
    (h : fullText forest layout node ≠ []) :
    byteLength (fullText forest layout node) < forest.weight (ownWeight layout) node := by
  induction node using forest.induction with
  | step node ih =>
    rw [fullText_eq] at h ⊢
    have hparts : textParts forest layout node ≠ [] := fun hnil => h (by rw [hnil]; rfl)
    have hjoin := byteLength_joinTexts _ hparts
    have hown := sum_parts_le collapseWhitespace (fun text => 2 * byteLength text)
      fun text (_ : text ∈ ownTexts layout node) htext => by
        have hle := byteLength_collapse text
        have hpos : byteLength (collapseWhitespace text) ≠ 0 := fun hzero => htext <| by
          cases htext : collapseWhitespace text with
          | nil => rfl
          | cons c rest =>
            have hc := utf8Size_pos c
            rw [htext, byteLength, total_cons] at hzero
            omega
        omega
    have hchildren := sum_parts_le (fullText forest layout) (forest.weight (ownWeight layout)) ih
    rw [textParts, List.filter_append, List.map_append, List.sum_append] at hjoin
    rw [Forest.weight_eq, ← Nat.succ_le_iff, textParts, List.filter_append, Nat.succ_eq_add_one, hjoin]
    exact Nat.add_le_add hown hchildren

theorem byteLength_fullText_le (h : layout.foldlM (appendLayout forest) (textBytes, table) = .ok last)
    (hnode : node < forest.size) : byteLength (fullText forest layout node) ≤ u64Max := by
  have hroom : 2 * maxSnapshotTextBytes ≤ u64Max := by decide
  by_cases hempty : fullText forest layout node = []
  · rw [hempty]
    exact Nat.zero_le _
  · have hlt := byteLength_fullText_lt forest layout node hempty
    have hweight := Forest.weight_le (ownWeight layout) hnode
    have hsum := sum_ownWeight_le layout forest.size
    rcases (foldlM_appendLayout h).2.2 with hnone | hbytes
    · rw [hnone, List.map_nil, List.sum_nil] at hsum
      omega
    · omega

theorem keeps_swept (h : layout.foldlM (appendLayout forest) (textBytes, List.replicate forest.size default) = .ok last)
    (hnode : node < forest.size) (hchildren : ∀ child ∈ forest.children node, ¬ Splits (textParts forest layout child) ∧
      Keeps (textParts forest layout child) (forest.swept appendSemanticTextSummary last.2 child)) :
    Keeps (textParts forest layout node) (forest.swept appendSemanticTextSummary last.2 node) := by
  obtain ⟨hlength, hentries, -⟩ := foldlM_appendLayout h
  rw [List.length_replicate] at hentries
  have hown : last.2[node]! = (ownTexts layout node).foldl (fun node text =>
      appendNormalizedSemanticText node (collapseWhitespace text) (byteLength (collapseWhitespace text))) default := by
    have happend := funext₂ appendSemanticText_eq
    rw [hentries node hnode, happend, List.getElem!_eq_getElem?_getD, List.getElem?_replicate, if_pos hnode]
    rfl
  rw [Forest.swept_eq, List.foldl_map, hown, textParts, List.filter_append]
  refine Keeps.appendAll (fun child hchild => ?_) (Keeps.appendAll (fun text _ => ⟨Iff.rfl, shows_self _, rfl⟩) keeps_default)
  obtain ⟨hsplits, hkeeps⟩ := hchildren child hchild
  have hfull := fullText_eq forest layout child
  refine ⟨?_, ?_, ?_⟩
  · rw [hkeeps.kept.nil_iff, hfull]
    exact (joinTexts_eq_nil fun part hpart => of_decide_eq_true (List.mem_filter.1 hpart).2).symm
  · rcases hkeeps.kept with ⟨-, hshows, -⟩ | ⟨hbad, -⟩
    · rw [hfull]
      exact hshows
    · exact absurd hbad hsplits
  · rw [hkeeps.counted, hfull, min_assoc, min_self]

theorem getElem?_swept (h : layout.foldlM (appendLayout forest) (textBytes, List.replicate forest.size default) = .ok last)
    (hnode : node < forest.size) : (forest.sweep appendSemanticTextSummary last.2)[node]? =
      some (forest.swept appendSemanticTextSummary last.2 node) := by
  have hlength := (foldlM_appendLayout h).1.trans List.length_replicate
  have hget := Forest.sweep_getElem appendSemanticTextSummary hlength hnode
  have hsome : node < (forest.sweep appendSemanticTextSummary last.2).length := by
    rw [Forest.length_sweep, hlength]
    exact hnode
  rw [List.getElem!_eq_getElem?_getD, List.getElem?_eq_getElem hsome] at hget
  rw [List.getElem?_eq_getElem hsome]
  exact congrArg some hget

/-- What every node of a snapshot keeps is a bounded prefix of its full text, exactly when no full text passes the bound,
with parts behind, at a character that leaves two bytes or more below the bound. -/
theorem rendered_prefixes_iff (forest : Forest) (layout : List LayoutEntry) (textBytes : Nat) {table : List RenderedText}
    (h : renderedTexts forest layout textBytes = .ok table) :
    (∀ node < forest.size, ∃ kept, table[node]? = some kept ∧ BoundedPrefix (fullText forest layout node) kept) ↔
      ∀ node < forest.size, ¬ Splits (textParts forest layout node) := by
  obtain ⟨last, hlast, htable⟩ := bind_eq_ok.1 h
  cases htable
  constructor
  · intro hprefixes
    suffices hall : ∀ node, node < forest.size → ¬ Splits (textParts forest layout node) ∧
        Keeps (textParts forest layout node) (forest.swept appendSemanticTextSummary last.2 node) from
      fun node hnode => (hall node hnode).1
    intro node
    induction node using forest.induction with
    | step node ih =>
      intro hnode
      have hkeeps := keeps_swept hlast hnode fun child hchild => ih child hchild (Forest.lt_size_of_mem hchild)
      obtain ⟨kept, hget, hprefix⟩ := hprefixes node hnode
      rw [getElem?_swept hlast hnode] at hget
      cases hget
      rcases hkeeps.kept with ⟨hsplits, -⟩ | ⟨-, hastray, -⟩
      · exact ⟨hsplits, hkeeps⟩
      · exact absurd (fullText_eq forest layout node ▸ hprefix.rendered) hastray.not_starts
  · intro hsplits node hnode
    refine ⟨_, getElem?_swept hlast hnode, ?_⟩
    have hkeeps : Keeps (textParts forest layout node) (forest.swept appendSemanticTextSummary last.2 node) := by
      induction node using forest.induction with
      | step node ih =>
        exact keeps_swept hlast hnode fun child hchild =>
          have hsize := Forest.lt_size_of_mem hchild
          ⟨hsplits child hsize, ih child hchild hsize⟩
    rcases hkeeps.kept with ⟨-, hshows, hbounded, -⟩ | ⟨hbad, -⟩
    · refine ⟨hbounded, fullText_eq forest layout node ▸ hshows.isPrefix, ?_⟩
      rw [hkeeps.counted, ← fullText_eq]
      exact min_eq_left (byteLength_fullText_le hlast hnode)
    · exact absurd hbad (hsplits node hnode)

/-- A node with two children. -/
def familyForest : Forest where
  parents := [none, some 0, some 0]
  before := by
    intro node parent h
    match node with
    | 0 => cases h
    | 1 => exact (Option.some.inj (Option.some.inj h)) ▸ Nat.one_pos
    | 2 => exact (Option.some.inj (Option.some.inj h)) ▸ Nat.two_pos
    | node + 3 => cases h

def familyLayout (first second : Text) : List LayoutEntry := [⟨some 1, some (some first)⟩, ⟨some 2, some (some second)⟩]

theorem rendered_prefixes_family :
    (∀ node < familyForest.size, ∃ kept,
      [⟨['a', ' ', 'b', ' ', 'c'], 5⟩, ⟨['a', ' ', 'b'], 3⟩, (⟨['c'], 1⟩ : RenderedText)][node]? = some kept ∧
        BoundedPrefix (fullText familyForest (familyLayout [' ', 'a', ' ', ' ', 'b'] ['c']) node) kept) ↔
      ∀ node < familyForest.size, ¬ Splits (textParts familyForest (familyLayout [' ', 'a', ' ', ' ', 'b'] ['c']) node) :=
  rendered_prefixes_iff familyForest (familyLayout [' ', 'a', ' ', ' ', 'b'] ['c']) 0 rfl

/-- A text whose last character passes the bound. -/
def crossingText : Text := List.replicate 1021 'x' ++ ['😀']

/-- The text of the first child is cut in front of its last character, and the text of the second is put in its place. -/
theorem rendered_text_astray : ¬ ∀ forest layout textBytes table, renderedTexts forest layout textBytes = .ok table →
    ∀ node < forest.size, ∃ kept, table[node]? = some kept ∧ BoundedPrefix (fullText forest layout node) kept := by
  intro h
  have hkept : ((renderedTexts familyForest (familyLayout crossingText ['a']) 0).toOption.bind (·[0]?)).map (·.rendered) =
      some (List.replicate 1021 'x' ++ [' ', 'a']) := by decide +kernel
  have hchildren : familyForest.children 0 = [1, 2] := by decide
  have hfirst : fullText familyForest (familyLayout crossingText ['a']) 1 = crossingText := by
    rw [fullText_eq]
    decide +kernel
  have hsecond : fullText familyForest (familyLayout crossingText ['a']) 2 = ['a'] := by
    rw [fullText_eq]
    decide +kernel
  have hfull : fullText familyForest (familyLayout crossingText ['a']) 0 = crossingText ++ [' ', 'a'] := by
    have hown : (ownTexts (familyLayout crossingText ['a']) 0) = [] := by decide +kernel
    rw [fullText_eq, textParts, hown, hchildren, List.map_cons, List.map_cons, hfirst, hsecond]
    decide +kernel
  cases htable : renderedTexts familyForest (familyLayout crossingText ['a']) 0 with
  | error error => cases htable ▸ hkept
  | ok table =>
    obtain ⟨kept, hget, hprefix⟩ := h _ _ _ _ htable 0 (by decide)
    rw [htable] at hkept
    have hrendered := Option.some.inj ((congrArg (Option.map RenderedText.rendered) hget).symm.trans hkept)
    have hstart := hprefix.rendered
    rw [hfull, hrendered] at hstart
    exact absurd hstart (by decide +kernel)

end Krometrail.Control
