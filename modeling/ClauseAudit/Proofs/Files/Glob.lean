import ClauseAudit.Files.Glob
import ClauseAudit.Proofs.Aligned
import ClauseAudit.Proofs.Files.Tree
import Mathlib.Data.List.Infix

/-!
# What patterns stand for

A star and an ending stand for the names with this ending. A pattern with one part stands for the
files of a directory whose names it matches, each once and in the order of their names. Whatever a
pattern is, it stands for files whose paths have clean parts.
-/

namespace ClauseAudit.Files.Glob

/-! ## Names -/

theorem mem_endings_iff {cs ds : List Char} : ds ∈ endings cs ↔ ds <:+ cs := by
  induction cs with
  | nil => simp [endings]
  | cons c cs ih => rw [endings, List.mem_cons, ih, List.suffix_cons_iff]

private theorem matchTokens_star_iff {ts : List Token} {cs : List Char} :
    matchTokens (.star :: ts) cs = true ↔ ∃ ds, ds <:+ cs ∧ matchTokens ts ds = true := by
  rw [matchTokens, List.any_eq_true]
  simp only [mem_endings_iff]

private theorem matchTokens_char_iff {ds cs : List Char} :
    matchTokens (ds.map .char) cs = true ↔ cs = ds := by
  induction ds generalizing cs with
  | nil => simp [matchTokens]
  | cons d ds ih =>
    cases cs with
    | nil => simp [matchTokens]
    | cons c cs => simp [matchTokens, ih]

def Plain (c : Char) : Prop := c ≠ '*' ∧ c ≠ '?' ∧ c ≠ '['

private theorem tokens_of_plain {cs : List Char} (h : ∀ c ∈ cs, Plain c) {fuel : Nat}
    (hfuel : cs.length ≤ fuel) : tokens fuel cs = cs.map .char := by
  induction cs generalizing fuel with
  | nil => cases fuel <;> rfl
  | cons c cs ih =>
    obtain ⟨fuel, rfl⟩ : ∃ n, fuel = n + 1 := Nat.exists_eq_add_one.mpr
      (Nat.lt_of_lt_of_le (Nat.zero_lt_succ _) hfuel)
    obtain ⟨⟨hstar, hone, hset⟩, hrest⟩ := List.forall_mem_cons.mp h
    rw [tokens, if_neg hstar, if_neg hone, if_neg hset, ih hrest (Nat.le_of_succ_le_succ hfuel),
      List.map_cons]

theorem matchesName_star_iff {ending name : String} (h : ∀ c ∈ ending.toList, Plain c) :
    matchesName ("*" ++ ending) name = true ↔ ending.toList <:+ name.toList := by
  have htokens : tokens ("*" ++ ending).length ("*" ++ ending).toList =
      .star :: ending.toList.map .char := by
    have hlength : ("*" ++ ending).length = ending.toList.length + 1 := by
      rw [String.length_append, String.length_toList, Nat.add_comm]
      rfl
    rw [hlength, String.toList_append]
    exact congrArg (Token.star :: ·) (tokens_of_plain h (Nat.le_refl _))
  rw [matchesName, htokens, matchTokens_star_iff]
  simp [matchTokens_char_iff]

/-! ## Files -/

variable {t : Tree} {p directory : Path} {dir : Place} {pattern name : String}

private theorem entry?_eq_some_iff {n : Place × Node} {e : String × Node} :
    (if n.1.length = dir.length + 1 && dir.isPrefixOf n.1 then
      n.1.getLast?.map fun name => (name, n.2) else none) = some e ↔ n = (dir ++ [e.1], e.2) := by
  obtain ⟨place, node⟩ := n
  constructor
  · intro h
    split at h
    · next hentry =>
      simp only [Bool.and_eq_true, decide_eq_true_eq, List.isPrefixOf_iff_prefix] at hentry
      obtain ⟨hlength, rest, rfl⟩ := hentry
      rw [List.length_append, Nat.add_left_cancel_iff, List.length_eq_one_iff] at hlength
      obtain ⟨name, rfl⟩ := hlength
      rw [List.getLast?_concat, Option.map_some, Option.some.injEq] at h
      rw [← h]
    · cases h
  · intro h
    cases h
    simp

theorem mem_entries_iff_mem {e : String × Node} :
    e ∈ t.entries dir ↔ (dir ++ [e.1], e.2) ∈ t.nodes := by
  rw [Tree.entries, List.mem_filterMap]
  constructor
  · rintro ⟨n, hn, he⟩
    rwa [entry?_eq_some_iff.mp he] at hn
  · exact fun he => ⟨_, he, entry?_eq_some_iff.mpr rfl⟩

theorem mem_entries_iff (ht : t.Sound) {e : String × Node} :
    e ∈ t.entries dir ↔ t.at? (dir ++ [e.1]) = some e.2 := by
  rw [mem_entries_iff_mem]
  exact ⟨ht.at?_of_mem, Tree.mem_nodes_of_at? (by simp)⟩

private theorem entryName_of_mem_entries (ht : t.Sound) {e : String × Node}
    (h : e ∈ t.entries dir) : EntryName e.1 := by
  obtain ⟨_, name, hplace, hname, _⟩ := ht.entry _ (mem_entries_iff_mem.mp h)
  have hlast := congrArg List.getLast? hplace
  rw [List.getLast?_concat, List.getLast?_concat, Option.some.injEq] at hlast
  rwa [hlast]

private theorem nodup_entries (ht : t.Sound) : ((t.entries dir).map (·.1)).Nodup := by
  rw [List.Nodup, List.pairwise_map, Tree.entries, List.pairwise_filterMap]
  have hapart := ht.apart
  rw [List.Nodup, List.pairwise_map] at hapart
  refine hapart.imp ?_
  intro n n' hne e he e' he' hname
  rw [entry?_eq_some_iff.mp he, entry?_eq_some_iff.mp he', hname] at hne
  exact hne rfl

private theorem append_lt_append_iff {front : List (List Char)} {a b : List Char} :
    front ++ [a] < front ++ [b] ↔ a < b := by
  induction front with
  | nil => simp [List.cons_lt_cons_iff]
  | cons first front ih => simp [ih]

private theorem le_child_iff {a b : String} :
    Path.le (p.child a) (p.child b) = true ↔ a ≤ b := by
  let front := (if p.root.isEmpty then [] else [p.root.toList]) ++ p.parts.map String.toList
  have hkey (name : String) : (if p.root.isEmpty then [] else [p.root.toList]) ++
      (p.parts ++ [name]).map String.toList = front ++ [name.toList] := by
    rw [List.map_append, List.map_singleton, List.append_assoc]
  change (!decide ((if p.root.isEmpty then [] else [p.root.toList]) ++
      (p.parts ++ [b]).map String.toList < (if p.root.isEmpty then [] else [p.root.toList]) ++
      (p.parts ++ [a]).map String.toList)) = true ↔ _
  rw [hkey, hkey, Bool.not_eq_true', decide_eq_false_iff_not, append_lt_append_iff]
  rfl

private theorem select_wild (hplace : t.place p = .ok dir) (depth : Nat) (w : String) :
    select t depth [.wild w] false p =
      (((t.entries dir).map (·.1)).filter (matchesName w)).map p.child := by
  have hone (e : String × Node) : (if matchesName w e.1 then select t depth [] false (p.child e.1)
      else []) = ([e.1].filter (matchesName w)).map p.child := by
    cases h : matchesName w e.1 <;> simp [select, h]
  rw [select, hplace]
  simp only [List.isEmpty_nil, Bool.not_true, Bool.or_false, Bool.not_false, Bool.or_true,
    Bool.true_and, hone]
  induction t.entries dir with
  | nil => rfl
  | cons e es ih =>
    rw [List.flatMap_cons, ih, ← List.map_append, ← List.filter_append]
    rfl

/-- A pattern with one part stands for the files of the directory whose names it matches. -/
theorem files_of_wild (ht : t.Sound) {w : String} (hparse : parse pattern = .ok ([.wild w], false))
    (hplace : t.place directory = .ok dir) (hdir : t.at? dir = some .directory) :
    ∃ names : List String, files t directory pattern = .ok (names.map directory.child) ∧
      names.Pairwise (· < ·) ∧
      ∀ name, name ∈ names ↔
        matchesName w name = true ∧ ∃ bytes, t.at? (dir ++ [name]) = some (.file bytes) := by
  let matched := ((t.entries dir).map (·.1)).filter (matchesName w)
  let found := matched.filter fun name => t.isFile (directory.child name)
  let names := found.mergeSort fun a b => Path.le (directory.child a) (directory.child b)
  have hfiles : files t directory pattern = .ok (names.map directory.child) := by
    have hdirectory : t.isDirectory directory = true :=
      Tree.isDirectory_iff.mpr ((Tree.node?_of_place hplace).trans hdir)
    -- Sorting and filtering the paths is sorting and filtering the names.
    have hsort : names.map directory.child = (found.map directory.child).mergeSort Path.le :=
      List.map_mergeSort fun _ _ _ _ => rfl
    have hfilter : found.map directory.child = (matched.map directory.child).filter t.isFile := by
      rw [List.filter_map]
      rfl
    rw [files, hparse, hsort, hfilter, ← select_wild hplace t.nodes.length]
    simp [bind, Except.bind, pure, Except.pure, hdirectory]
  have hmem (name : String) : name ∈ names ↔
      matchesName w name = true ∧ ∃ bytes, t.at? (dir ++ [name]) = some (.file bytes) := by
    rw [(List.mergeSort_perm found _).mem_iff, List.mem_filter, List.mem_filter]
    constructor
    · rintro ⟨⟨hentry, hname⟩, hfile⟩
      obtain ⟨e, he, rfl⟩ := List.mem_map.mp hentry
      obtain ⟨bytes, hbytes⟩ := Tree.isFile_iff.mp hfile
      have hup := (entryName_of_mem_entries ht he).ne_up
      rw [Tree.node?_of_place (Tree.place_child hplace hdir hup)] at hbytes
      exact ⟨hname, bytes, hbytes⟩
    · rintro ⟨hname, bytes, hbytes⟩
      have he : (name, Node.file bytes) ∈ t.entries dir := (mem_entries_iff ht).mpr hbytes
      have hup := (entryName_of_mem_entries ht he).ne_up
      refine ⟨⟨List.mem_map_of_mem he, hname⟩, Tree.isFile_iff.mpr ⟨bytes, ?_⟩⟩
      rw [Tree.node?_of_place (Tree.place_child hplace hdir hup)]
      exact hbytes
  have hnodup : names.Nodup :=
    (List.mergeSort_perm found _).nodup_iff.mpr (((nodup_entries ht).filter _).filter _)
  have hsorted : names.Pairwise (· ≤ ·) := by
    simp only [← le_child_iff (p := directory)]
    apply List.pairwise_mergeSort
    · intro a b c
      rw [le_child_iff, le_child_iff, le_child_iff]
      exact String.le_trans
    · intro a b
      rw [Bool.or_eq_true, le_child_iff, le_child_iff]
      exact String.le_total _ _
  refine ⟨names, hfiles, ?_, hmem⟩
  -- Names are distinct, so none is only as large as the one before.
  refine hsorted.imp₂ ?_ hnodup
  intro a b hle hne
  exact Std.lt_of_le_of_ne hle hne

/-! ## Paths that any pattern stands for -/

private theorem Part.ofText_eq_exact {s : String} (h : Part.ofText s = .ok (.exact name)) :
    s = name ∧ name ≠ ".." := by
  unfold Part.ofText at h
  split at h
  · cases h
  split at h
  · cases h
  · next hup =>
    split at h
    · cases h
    · split at h
      · cases h
      · cases h
        exact ⟨rfl, by simpa using hup⟩

private theorem entryName_of_parse {parts : List Part} {slash : Bool}
    (h : parse pattern = .ok (parts, slash)) : ∀ name, Part.exact name ∈ parts → EntryName name := by
  intro name hname
  obtain ⟨_, h⟩ := refused_eq_ok_iff.mp h
  obtain ⟨_, h⟩ := refused_eq_ok_iff.mp h
  obtain ⟨_, h⟩ := refused_eq_ok_iff.mp h
  obtain ⟨parts', hparts, h⟩ := bind_eq_ok_iff.mp h
  cases h
  have hclean := (List.forall₂_and_left _ _).mpr
    ⟨Path.clean_ofText pattern, mapM_eq_ok_iff.mp hparts⟩
  have hentries : ∀ part ∈ parts, ∀ name, part = .exact name → EntryName name := by
    refine forall₂_forall_right hclean ?_
    rintro s part ⟨hentry, hpart⟩ name rfl
    obtain ⟨rfl, hup⟩ := Part.ofText_eq_exact hpart
    exact hentry hup
  exact hentries _ hname name rfl

private theorem clean_directoriesFrom (ht : t.Sound) {depth : Nat} (hp : p.Clean) :
    ∀ q ∈ directoriesFrom t depth p, q.Clean := by
  induction depth generalizing p with
  | zero => simpa [directoriesFrom] using hp
  | succ depth ih =>
    rw [directoriesFrom]
    split
    · next place hplace =>
      rw [List.forall_mem_cons]
      refine ⟨hp, ?_⟩
      intro q hq
      obtain ⟨e, he, hq⟩ := List.mem_flatMap.mp hq
      split at hq
      · exact ih (hp.child fun _ => entryName_of_mem_entries ht he) q hq
      · cases hq
    · simpa using hp

/-- Whatever a pattern is, the paths that it stands for have clean parts. -/
theorem clean_select (ht : t.Sound) {parts : List Part} {depth : Nat} {slash : Bool}
    (hparts : ∀ name, Part.exact name ∈ parts → EntryName name) (hp : p.Clean) :
    ∀ q ∈ select t depth parts slash p, q.Clean := by
  induction parts generalizing p with
  | nil => simpa [select] using hp
  | cons part parts ih =>
    have hrest := fun {p : Path} => ih (p := p) fun name hname =>
      hparts name (List.mem_cons_of_mem _ hname)
    intro q hq
    cases part with
    | up =>
      exact hrest (hp.child fun hup => absurd rfl hup) q hq
    | exact name =>
      rw [select, List.mem_ite_nil_right] at hq
      exact hrest (hp.child fun _ => hparts name List.mem_cons_self) q hq.2
    | wild w =>
      rw [select] at hq
      split at hq
      · cases hq
      · obtain ⟨e, he, hq⟩ := List.mem_flatMap.mp hq
        rw [List.mem_ite_nil_right] at hq
        exact hrest (hp.child fun _ => entryName_of_mem_entries ht he) q hq.2
    | directories =>
      rw [select, List.mem_eraseDups] at hq
      obtain ⟨d, hd, hq⟩ := List.mem_flatMap.mp hq
      exact hrest (clean_directoriesFrom ht hp d hd) q hq

theorem files_spec (ht : t.Sound) (hp : directory.Clean) {paths : List Path}
    (h : files t directory pattern = .ok paths) : ∀ q ∈ paths, q.Clean ∧ t.isFile q = true := by
  obtain ⟨⟨parts, slash⟩, hparse, h⟩ := bind_eq_ok_iff.mp h
  cases h
  intro q hq
  rw [List.mem_mergeSort, List.mem_filter, List.mem_ite_nil_right] at hq
  refine ⟨?_, hq.2⟩
  exact clean_select ht (entryName_of_parse hparse) hp q hq.1.2

end ClauseAudit.Files.Glob
