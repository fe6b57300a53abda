import Vscp.RegisterBlock

set_option autoImplicit false

namespace Vscp.Registers

def items (map : RegisterMap) : List (UInt8 × UInt8) :=
  (List.range 256).filterMap fun key => (map (UInt8.ofNat key)).map fun value => (UInt8.ofNat key, value)

structure Scan where
  reg : Int
  count : Int
  startmap : RegisterMap

def scanItem (scan : Scan) (item : UInt8 × UInt8) : Scan :=
  if (item.1.toNat : Int) ≠ scan.reg + scan.count then ⟨item.1.toNat, 1, insert scan.startmap (item.1, 1)⟩
  else
    -- The counts of the map are bytes.
    let start := UInt8.ofNat scan.reg.toNat
    let counted := (scan.startmap start).getD 0 + 1
    ⟨scan.reg, counted.toNat, insert scan.startmap (start, counted)⟩

def startmapOf (regvalues : RegisterMap) : RegisterMap :=
  ((items regvalues).foldl scanItem ⟨-99, 0, fun _ => none⟩).startmap

structure Frame where
  first : UInt8
  bytes2write : Nat
  index : Nat
  nwrites : Nat
deriving DecidableEq

def framesOf (start : UInt8 × UInt8) : List Frame :=
  let nwrites := start.2.toNat / 4 + if start.2.toNat % 4 ≠ 0 then 1 else 0
  (List.range nwrites).map fun i =>
    ⟨start.1 + UInt8.ofNat (4 * i), min 4 (start.2.toNat - 4 * i), i, nwrites⟩

def writeFrames (regvalues : RegisterMap) : List Frame := (items (startmapOf regvalues)).flatMap framesOf

def frameKeys (frame : Frame) : List UInt8 := (List.range frame.bytes2write).map fun j => frame.first + UInt8.ofNat j

def runKeys (run : UInt8 × UInt8) : List Nat := (List.range run.2.toNat).map (run.1.toNat + ·)

def Ordered (pairs : List (UInt8 × UInt8)) : Prop := pairs.Pairwise fun left right => left.1.toNat < right.1.toNat

variable (map : RegisterMap)

theorem items_member (pair : UInt8 × UInt8) : pair ∈ items map ↔ map pair.1 = some pair.2 := by
  unfold items
  rw [List.mem_filterMap]
  constructor
  · rintro ⟨key, _, found⟩
    obtain ⟨value, held, rfl⟩ := Option.map_eq_some_iff.mp found
    exact held
  · intro held
    refine ⟨pair.1.toNat, List.mem_range.mpr pair.1.toNat_lt, ?_⟩
    rw [UInt8.ofNat_toNat, held]
    rfl

theorem items_ordered : Ordered (items map) := by
  unfold Ordered items
  rw [List.pairwise_filterMap]
  apply List.Pairwise.imp_of_mem _ List.pairwise_lt_range
  intro left right _ inside less first found second other
  obtain ⟨_, _, rfl⟩ := Option.map_eq_some_iff.mp found
  obtain ⟨_, _, rfl⟩ := Option.map_eq_some_iff.mp other
  have bound := List.mem_range.mp inside
  rw [UInt8.toNat_ofNat', UInt8.toNat_ofNat']
  omega

variable (pairs : List (UInt8 × UInt8))

theorem ordered_nodup (ordered : Ordered pairs) : pairs.Nodup := by
  apply List.Pairwise.imp _ ordered
  rintro left right less rfl
  exact Nat.lt_irrefl _ less

theorem items_unique (ordered : Ordered pairs)
    (members : ∀ pair, pair ∈ pairs ↔ map pair.1 = some pair.2) : items map = pairs := by
  have own := items_ordered map
  have same : (items map).Perm pairs :=
    (List.perm_ext_iff_of_nodup (ordered_nodup _ own) (ordered_nodup _ ordered)).mpr fun pair =>
      (items_member map pair).trans (members pair).symm
  apply List.Perm.eq_of_pairwise _ own ordered same
  intro left right _ _ less more
  omega

theorem items_empty : items (fun _ => none) = [] := by
  apply items_unique
  · exact List.Pairwise.nil
  · intro pair
    constructor
    · intro member
      cases member
    · intro none
      cases none

theorem items_insert_last (reg value : UInt8)
    (last : ∀ key, (map key).isSome → key.toNat ≤ reg.toNat) :
    items (insert map (reg, value)) =
      (items map).filter (fun pair => pair.1.toNat < reg.toNat) ++ [(reg, value)] := by
  apply items_unique
  · rw [Ordered, List.pairwise_append]
    refine ⟨(items_ordered map).filter _, List.pairwise_singleton _ _, ?_⟩
    intro left member right only
    cases List.mem_singleton.mp only
    exact of_decide_eq_true (List.mem_filter.mp member).2
  · rintro ⟨key, byte⟩
    rw [List.mem_append, List.mem_filter, items_member, List.mem_singleton]
    by_cases same : key = reg
    · simp [insert, same, eq_comm]
    · have away : key.toNat ≠ reg.toNat := fun equal => same (UInt8.toNat_inj.mp equal)
      have kept : insert map (reg, value) key = map key := if_neg same
      rw [kept, Prod.mk.injEq]
      constructor
      · rintro (held | ⟨equal, _⟩)
        · exact held.1
        · exact absurd equal same
      · intro held
        have below := last key (by rw [held]; rfl)
        exact .inl ⟨held, decide_eq_true (Nat.lt_of_le_of_ne below away)⟩

structure Scanned (keys : List Nat) (start size : Nat) (scan : Scan) : Prop where
  reg : scan.reg = start
  count : scan.count = size
  byte : start < 256
  positive : 0 < size
  small : size < 256
  held : scan.startmap (UInt8.ofNat start) = some (UInt8.ofNat size)
  last : ∀ key, (scan.startmap key).isSome → key.toNat ≤ start
  expanded : (items scan.startmap).flatMap runKeys = keys

theorem scan_first (item : UInt8 × UInt8) :
    Scanned [item.1.toNat] item.1.toNat 1 (scanItem ⟨-99, 0, fun _ => none⟩ item) := by
  have other : (item.1.toNat : Int) ≠ -99 + 0 := by omega
  rw [scanItem, if_pos other]
  refine ⟨rfl, rfl, item.1.toNat_lt, Nat.one_pos, by decide, ?_, ?_, ?_⟩
  · rw [UInt8.ofNat_toNat]
    exact if_pos rfl
  · intro key held
    by_cases same : key = item.1
    · rw [same]
    · simp [insert, same] at held
  · have none : ∀ key, ((fun _ => .none : RegisterMap) key).isSome → key.toNat ≤ item.1.toNat := by
      intro key held
      cases held
    rw [items_insert_last _ item.1 1 none, items_empty]
    rfl

variable (keys : List Nat) (start size : Nat)

theorem run_keys_of (byte : start < 256) (small : size < 256) :
    runKeys (UInt8.ofNat start, UInt8.ofNat size) = (List.range size).map (start + ·) := by
  rw [runKeys, UInt8.toNat_ofNat_of_lt' byte, UInt8.toNat_ofNat_of_lt' small]

variable (scan : Scan)

theorem scanned_keys (scanned : Scanned keys start size scan) :
    keys = ((items scan.startmap).filter fun pair => pair.1.toNat < start).flatMap runKeys ++
      (List.range size).map (start + ·) := by
  have back : (UInt8.ofNat start).toNat = start := UInt8.toNat_ofNat_of_lt' scanned.byte
  have again : insert scan.startmap (UInt8.ofNat start, UInt8.ofNat size) = scan.startmap := by
    funext key
    by_cases same : key = UInt8.ofNat start
    · rw [same, scanned.held]
      exact if_pos rfl
    · exact if_neg same
  have parts := items_insert_last scan.startmap (UInt8.ofNat start) (UInt8.ofNat size) (by
    rw [back]
    exact scanned.last)
  rw [again, back] at parts
  have expanded := scanned.expanded
  rw [parts, List.flatMap_append, List.flatMap_singleton, run_keys_of start size scanned.byte scanned.small] at expanded
  exact expanded.symm

theorem scan_joins (scanned : Scanned keys start size scan)
    (item : UInt8 × UInt8) (joins : item.1.toNat = start + size) (few : keys.length + 1 < 256) :
    Scanned (keys ++ [item.1.toNat]) start (size + 1) (scanItem scan item) := by
  have back : (UInt8.ofNat start).toNat = start := UInt8.toNat_ofNat_of_lt' scanned.byte
  have parts := scanned_keys keys start size scan scanned
  have length := congrArg List.length parts
  rw [List.length_append, List.length_map, List.length_range] at length
  have room : size + 1 < 256 := by omega
  have counted : (UInt8.ofNat (size + 1)).toNat = size + 1 := UInt8.toNat_ofNat_of_lt' room
  have more : (UInt8.ofNat size + 1 : UInt8) = UInt8.ofNat (size + 1) := (UInt8.ofNat_add size 1).symm
  have below : ∀ key, (scan.startmap key).isSome → key.toNat ≤ (UInt8.ofNat start).toNat := by
    rw [back]
    exact scanned.last
  unfold scanItem
  rw [scanned.reg, scanned.count, if_neg (by omega)]
  simp only [Int.toNat_natCast, scanned.held, Option.getD_some, more]
  refine ⟨rfl, by rw [counted], scanned.byte, Nat.succ_pos _, room, ?_, ?_, ?_⟩
  · exact if_pos rfl
  · intro key held
    by_cases same : key = UInt8.ofNat start
    · rw [same, back]
    · exact scanned.last key (by simpa [insert, same] using held)
  · rw [items_insert_last _ _ _ below, back, List.flatMap_append, List.flatMap_singleton,
      run_keys_of start (size + 1) scanned.byte room, List.range_succ, List.map_append, List.map_singleton,
      ← List.append_assoc, ← parts, joins]

theorem scan_begins (scanned : Scanned keys start size scan)
    (item : UInt8 × UInt8) (behind : start + size < item.1.toNat) :
    Scanned (keys ++ [item.1.toNat]) item.1.toNat 1 (scanItem scan item) := by
  have below : ∀ key, (scan.startmap key).isSome → key.toNat < item.1.toNat := by
    intro key held
    have most := scanned.last key held
    omega
  unfold scanItem
  rw [scanned.reg, scanned.count, if_pos (by omega)]
  refine ⟨rfl, rfl, item.1.toNat_lt, Nat.one_pos, by decide, ?_, ?_, ?_⟩
  · rw [UInt8.ofNat_toNat]
    exact if_pos rfl
  · intro key held
    by_cases same : key = item.1
    · rw [same]
    · exact Nat.le_of_lt (below key (by simpa [insert, same] using held))
  · have all : (items scan.startmap).filter (fun pair => pair.1.toNat < item.1.toNat) = items scan.startmap := by
      apply List.filter_eq_self.mpr
      rintro ⟨key, value⟩ member
      apply decide_eq_true
      exact below key (by rw [(items_member _ _).mp member]; rfl)
    rw [items_insert_last _ _ _ fun key held => Nat.le_of_lt (below key held), all, List.flatMap_append,
      scanned.expanded]
    rfl

theorem scan_rest (scanned : Scanned keys start size scan) (ordered : Ordered pairs)
    (behind : ∀ pair ∈ pairs, start + size ≤ pair.1.toNat) (few : keys.length + pairs.length < 256) :
    (items (pairs.foldl scanItem scan).startmap).flatMap runKeys = keys ++ pairs.map fun pair => pair.1.toNat := by
  induction pairs generalizing keys start size scan with
  | nil => rw [List.foldl_nil, List.map_nil, List.append_nil, scanned.expanded]
  | cons pair pairs ih =>
      obtain ⟨above, later⟩ := List.pairwise_cons.mp ordered
      rw [List.length_cons] at few
      have longer : (keys ++ [pair.1.toNat]).length + pairs.length < 256 := by
        rw [List.length_append, List.length_singleton]
        omega
      have next := behind pair List.mem_cons_self
      have split : keys ++ (pair :: pairs).map (fun pair => pair.1.toNat) =
          (keys ++ [pair.1.toNat]) ++ pairs.map fun pair => pair.1.toNat := by
        rw [List.map_cons, List.append_assoc, List.singleton_append]
      rw [List.foldl_cons, split]
      by_cases joins : pair.1.toNat = start + size
      · apply ih _ start (size + 1) _ (scan_joins keys start size scan scanned pair joins (by omega)) later _ longer
        intro other member
        have more := above other member
        omega
      · apply ih _ pair.1.toNat 1 _ (scan_begins keys start size scan scanned pair (by omega)) later _ longer
        intro other member
        exact above other member

variable (regvalues : RegisterMap)

theorem runs_cover (few : (items regvalues).length < 256) :
    (items (startmapOf regvalues)).flatMap runKeys = (items regvalues).map fun pair => pair.1.toNat := by
  have ordered := items_ordered regvalues
  unfold startmapOf
  generalize items regvalues = pairs at few ordered
  cases pairs with
  | nil =>
      rw [List.foldl_nil, items_empty]
      rfl
  | cons pair pairs =>
      obtain ⟨above, later⟩ := List.pairwise_cons.mp ordered
      rw [List.length_cons] at few
      rw [List.foldl_cons, scan_rest pairs _ _ 1 _ (scan_first pair) later above (by rw [List.length_singleton]; omega)]
      rfl

theorem range_by_fours (size parts : Nat) :
    (List.range parts).flatMap (fun i => (List.range (min 4 (size - 4 * i))).map (4 * i + ·)) =
      List.range (min (4 * parts) size) := by
  induction parts with
  | zero =>
      rw [Nat.mul_zero, Nat.zero_min]
      rfl
  | succ parts ih =>
      rw [List.range_succ, List.flatMap_append, List.flatMap_singleton, ih]
      by_cases more : 4 * parts ≤ size
      · have sum : min (4 * (parts + 1)) size = 4 * parts + min 4 (size - 4 * parts) := by omega
        rw [Nat.min_eq_left more, sum, List.range_add]
      · have none : size - 4 * parts = 0 := by omega
        have same : min (4 * (parts + 1)) size = min (4 * parts) size := by omega
        rw [none, same, Nat.min_zero, List.range_zero, List.map_nil, List.append_nil]

theorem frames_keys (run : UInt8 × UInt8) :
    (framesOf run).flatMap frameKeys = (runKeys run).map UInt8.ofNat := by
  have enough : min (4 * (run.2.toNat / 4 + if run.2.toNat % 4 ≠ 0 then 1 else 0)) run.2.toNat = run.2.toNat := by
    split <;> omega
  unfold framesOf runKeys
  rw [← enough, ← range_by_fours, enough, List.flatMap_map, List.map_flatMap, List.map_flatMap]
  congr 1
  funext i
  rw [frameKeys, List.map_map, List.map_map]
  apply List.map_congr_left
  intro j _
  show run.1 + UInt8.ofNat (4 * i) + UInt8.ofNat j = UInt8.ofNat (run.1.toNat + (4 * i + j))
  rw [UInt8.ofNat_add, UInt8.ofNat_add, UInt8.ofNat_toNat, UInt8.add_assoc]

def framePairs (map : RegisterMap) (frame : Frame) : List (UInt8 × UInt8) :=
  (frameKeys frame).map fun key => (key, (map key).getD 0)

theorem frames_cover (few : (items regvalues).length < 256) :
    (writeFrames regvalues).flatMap (framePairs regvalues) = items regvalues := by
  have keys : (writeFrames regvalues).flatMap frameKeys = (items regvalues).map Prod.fst := by
    calc (writeFrames regvalues).flatMap frameKeys
        = (items (startmapOf regvalues)).flatMap fun run => (framesOf run).flatMap frameKeys := List.flatMap_assoc
      _ = (items (startmapOf regvalues)).flatMap fun run => (runKeys run).map UInt8.ofNat := by
          congr 1
          funext run
          exact frames_keys run
      _ = ((items (startmapOf regvalues)).flatMap runKeys).map UInt8.ofNat := List.map_flatMap.symm
      _ = (items regvalues).map Prod.fst := by
          rw [runs_cover regvalues few, List.map_map]
          apply List.map_congr_left
          intro pair _
          exact UInt8.ofNat_toNat
  unfold framePairs
  rw [← List.map_flatMap, keys, List.map_map]
  calc (items regvalues).map ((fun key => (key, (regvalues key).getD 0)) ∘ Prod.fst)
      = (items regvalues).map id := by
        apply List.map_congr_left
        rintro ⟨key, value⟩ member
        show (key, (regvalues key).getD 0) = (key, value)
        rw [(items_member regvalues (key, value)).mp member]
        rfl
    _ = items regvalues := List.map_id _

end Vscp.Registers
