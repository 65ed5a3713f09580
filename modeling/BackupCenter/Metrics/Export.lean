import BackupCenter.Metrics.Histograms

/-!
# What the export of a histogram shows

The fields of the hashes name the labels and the bound without ambiguity, so that every set of
labels gets one series, with its observations counted and its labels as they were.
-/
namespace BackupCenter.Metrics

open BackupCenter.Lib BackupCenter.Lib.PromText

variable {env : Env} {labels : List (Text × Option Text)}

/-! ## Sorting -/

section Sorting

variable {α β : Type} {d d' : List (Text × α)}

theorem sortLabels_perm (d : List (Text × α)) : (sortLabels d).Perm d := List.perm_insertionSort _ _

theorem sortLabels_map (f : Text × α → Text × β) (hf : ∀ e, (f e).1 = e.1) :
    sortLabels (d.map f) = (sortLabels d).map f := by
  unfold sortLabels
  rw [List.map_insertionSort (fun a b : Text × α => a.1 ≤ b.1) (fun a b : Text × β => a.1 ≤ b.1)]
  intro a _ b _
  rw [hf, hf]

theorem sortLabels_sorted (d : List (Text × α)) : (sortLabels d).Pairwise fun a b => a.1 ≤ b.1 := by
  have : Std.Total fun a b : Text × α => a.1 ≤ b.1 := ⟨fun a b => le_total a.1 b.1⟩
  have : IsTrans (Text × α) fun a b => a.1 ≤ b.1 := ⟨fun _ _ _ => le_trans⟩
  exact List.pairwise_insertionSort _ _

/-- A sorted list stays as it is. -/
theorem sortLabels_sortLabels (d : List (Text × α)) : sortLabels (sortLabels d) = sortLabels d :=
  (sortLabels_sorted d).insertionSort_eq

/-- Dictionaries with the same entries are sorted alike. -/
theorem sortLabels_congr (h : d.Perm d') (hnodup : (d.map Prod.fst).Nodup) :
    sortLabels d = sortLabels d' := by
  have hperm : (sortLabels d).Perm (sortLabels d') :=
    (sortLabels_perm d).trans (h.trans (sortLabels_perm d').symm)
  have hkeys : ∀ a ∈ sortLabels d, ∀ b ∈ sortLabels d, a.1 = b.1 → a = b := by
    intro a ha b hb he
    exact List.inj_on_of_nodup_map hnodup ((sortLabels_perm d).mem_iff.mp ha)
      ((sortLabels_perm d).mem_iff.mp hb) he
  refine hperm.eq_of_pairwise ?_ (sortLabels_sorted d) (sortLabels_sorted d')
  intro a b ha hb hab hba
  exact hkeys a ha b (hperm.mem_iff.mpr hb) (le_antisymm hab hba)

end Sorting

/-! ## Fields of the hashes -/

/-- The separator does not occur without its first character. -/
theorem rsplit_of_not_mem {text : Text} (h : '|' ∉ text) : rsplit separator text = none := by
  induction text with
  | nil => rfl
  | cons c cs ih =>
    have hnot : ¬ separator <+: c :: cs := by
      rintro ⟨tail, htail⟩
      exact h (htail ▸ List.mem_cons_self)
    rw [rsplit, ih fun hmem => h (List.mem_cons_of_mem _ hmem)]
    exact if_neg hnot

theorem rsplit_separator {before after : Text} (h : '|' ∉ after) :
    rsplit separator (before ++ separator ++ after) = some (before, after) := by
  induction before with
  | nil =>
    have hrest : '|' ∉ "le=".toList ++ after := by
      intro hmem
      rcases List.mem_append.mp hmem with hmem | hmem
      · exact absurd hmem (by decide)
      · exact h hmem
    rw [List.nil_append, show separator = '|' :: "le=".toList from rfl, List.cons_append, rsplit,
      show '|' :: "le=".toList = separator from rfl, rsplit_of_not_mem hrest]
    refine (if_pos ⟨after, rfl⟩).trans ?_
    rfl
  | cons c before ih =>
    rw [List.cons_append, List.cons_append, rsplit, ih]

theorem sanitize_declared (env : Env) {entry : Text × List Bound} (h : entry ∈ histogramBuckets) :
    sanitizeMetricName env entry.1 = entry.1 := by
  simp only [histogramBuckets, List.mem_cons, List.not_mem_nil, or_false] at h
  rcases h with rfl | rfl | rfl | rfl <;> rfl

/-! ## Labels -/

/-- A label value as the reader gets it: newlines are blanks. -/
def shownValue (value : Option Text) : Text :=
  (value.getD "unknown".toList).map fun c => if c = '\n' then ' ' else c

/-- The labels that are kept, with their original values. -/
def originalLabels (env : Env) (labels : List (Text × Option Text)) : Dict Text Text :=
  keptLabels env shownValue labels

/-- The normalised label set. -/
def labelSet (env : Env) (labels : List (Text × Option Text)) : Dict Text Text :=
  sortLabels (normalizeLabels env labels)

theorem normalizeLabelValue_eq (value : Option Text) :
    normalizeLabelValue value = escapeValue (shownValue value) := by
  unfold normalizeLabelValue shownValue escapeValue replaceChar
  induction value.getD "unknown".toList with
  | nil => rfl
  | cons c text ih =>
    simp only [List.flatMap_cons, List.flatMap_append, List.map_cons] at ih ⊢
    rw [ih]
    congr 1
    by_cases hbackslash : c = '\\'
    · rw [hbackslash]
      decide
    · by_cases hnewline : c = '\n'
      · rw [hnewline]
        decide
      · simp [escapeChar, hbackslash, hnewline]

theorem newline_not_mem_shownValue (value : Option Text) : '\n' ∉ shownValue value := by
  intro hmem
  obtain ⟨c, -, hc⟩ := List.mem_map.mp hmem
  split at hc
  · exact absurd hc (by decide)
  · exact absurd hc ‹_›

theorem assign_escapeLabels (d : Dict Text Text) (key value : Text) :
    assign (escapeLabels d) (key, some (escapeValue value)) =
      escapeLabels (assign d (key, some value)) := by
  unfold assign escapeLabels
  dsimp only
  rw [List.map_cons, List.filter_map]
  rfl

/-- What a property of the entries needs to hold of all labels that are kept. -/
theorem keptLabels_induction {P : Dict Text Text → Prop} {normalize : Option Text → Text}
    (hnil : P []) (hassign : ∀ d key value, key ∈ allowedLabelKeys → P d →
      P (assign d (key, some (normalize value)))) : P (keptLabels env normalize labels) := by
  have hfold : ∀ (items : List (Text × Option Text)) (d : Dict Text Text), P d →
      P (items.foldl (keepLabel env normalize) d) := by
    intro items
    induction items with
    | nil => exact fun _ h => h
    | cons item items ih =>
      intro d hd
      apply ih
      unfold keepLabel
      dsimp only
      split_ifs with hempty hunknown
      · exact hd
      · exact hassign d _ _ hunknown hd
      · exact hd
  exact hfold _ _ hnil

theorem keepLabel_escapeLabels (d : Dict Text Text) (item : Text × Option Text) :
    keepLabel env normalizeLabelValue (escapeLabels d) item =
      escapeLabels (keepLabel env shownValue d item) := by
  unfold keepLabel
  dsimp only
  rw [normalizeLabelValue_eq]
  split_ifs
  · rfl
  · exact assign_escapeLabels d _ _
  · rfl

theorem normalizeLabels_eq :
    normalizeLabels env labels = escapeLabels (originalLabels env labels) := by
  unfold normalizeLabels originalLabels keptLabels
  have hfold : ∀ (items : List (Text × Option Text)) (d : Dict Text Text),
      items.foldl (keepLabel env normalizeLabelValue) (escapeLabels d) =
        escapeLabels (items.foldl (keepLabel env shownValue) d) := by
    intro items
    induction items with
    | nil => exact fun _ => rfl
    | cons item items ih =>
      intro d
      rw [List.foldl_cons, List.foldl_cons, keepLabel_escapeLabels, ih]
  exact hfold _ []

theorem originalLabels_nodup : ((originalLabels env labels).map Prod.fst).Nodup :=
  keptLabels_induction (P := fun d => (d.map Prod.fst).Nodup) List.nodup_nil
    fun _ _ _ _ h => nodup_assign h

/-- Every kept label has an allowed name and a value without a newline. -/
theorem originalLabels_plain :
    ∀ label ∈ originalLabels env labels, label.1 ∈ allowedLabelKeys ∧ '\n' ∉ label.2 := by
  refine keptLabels_induction
    (P := fun d => ∀ label ∈ d, label.1 ∈ allowedLabelKeys ∧ '\n' ∉ label.2)
    (fun _ h => absurd h List.not_mem_nil) ?_
  intro d key value hkey hd label hlabel
  rcases List.mem_cons.mp hlabel with rfl | hlabel
  · exact ⟨hkey, newline_not_mem_shownValue value⟩
  · exact hd label (List.mem_filter.mp hlabel).1

theorem labelSet_eq :
    labelSet env labels = escapeLabels (sortLabels (originalLabels env labels)) := by
  rw [labelSet, normalizeLabels_eq]
  exact sortLabels_map _ fun _ => rfl

/-! ## Keys of label sets -/

/-- What `_labels_key` writes for a normalised label set. -/
def keyOf (set : Dict Text Text) : Text := if set = [] then ['-'] else JsonText.dumps set

theorem labelsKey_eq : labelsKey env labels = keyOf (labelSet env labels) := by
  have hnil : labelSet env labels = [] ↔ normalizeLabels env labels = [] := by
    rw [← List.length_eq_zero_iff, ← List.length_eq_zero_iff, labelSet,
      (sortLabels_perm _).length_eq]
  unfold labelsKey keyOf
  dsimp only
  by_cases hempty : normalizeLabels env labels = []
  · rw [if_pos hempty, if_pos (hnil.mpr hempty)]
  · rw [if_neg hempty, if_neg (fun he => hempty (hnil.mp he))]
    rfl

theorem parseLabelsKey_keyOf (set : Dict Text Text) : parseLabelsKey (keyOf set) = set := by
  unfold parseLabelsKey keyOf
  by_cases hempty : set = []
  · rw [if_pos hempty, if_pos (.inr rfl), hempty]
  · have hbrace : ¬ (JsonText.dumps set = [] ∨ JsonText.dumps set = ['-']) := by
      simp [JsonText.dumps]
    rw [if_neg hempty, if_neg hbrace, JsonText.loads_dumps, Option.getD_some]

theorem keyOf_injective : Function.Injective keyOf := by
  intro set set' h
  rw [← parseLabelsKey_keyOf set, h, parseLabelsKey_keyOf]

/-- A field names the labels and the bound. -/
theorem field_injective {set set' : Dict Text Text} {text text' : Text} (h : '|' ∉ text)
    (h' : '|' ∉ text')
    (he : keyOf set ++ separator ++ text = keyOf set' ++ separator ++ text') :
    set = set' ∧ text = text' := by
  have hsplit := (@rsplit_separator (keyOf set) _ h).symm.trans
    ((congrArg (rsplit separator) he).trans (rsplit_separator h'))
  obtain ⟨hkey, htext⟩ := Prod.mk.inj (Option.some.inj hsplit)
  exact ⟨keyOf_injective hkey, htext⟩

/-! ## What an observation adds -/

variable {s : Store} {o : Observation} {metric : Text} {bounds : List Bound}

/-- The value that an observation adds to a metric. -/
def Observation.numeric (o : Observation) (metric : Text) : Option ℚ :=
  match o.value with
  | .finite x => if o.metric = metric ∧ 0 ≤ x then some x else none
  | _ => none

/-- The fields of the bucket hash that an observation increases. -/
def bucketFields (bounds : List Bound) (labelKey : Text) (x : ℚ) : List Text :=
  (bounds.filter fun bound => x ≤ bound.value).map
    (fun bound => labelKey ++ separator ++ bound.text) ++ [labelKey ++ separator ++ infBound]

theorem hash_hincrby (s : Store) (key k : HashKey) (field : Text) :
    (hincrby s key field).hash k = if k = key then tally (s.hash k) [field] else s.hash k := by
  unfold hincrby Store.hash
  rw [valueOf_assign]
  split
  next he => rw [he]; rfl
  next => rfl

theorem hash_hincrbyfloat (s : Store) {key k : HashKey} (field : Text) (x : ℚ) (h : k ≠ key) :
    (hincrbyfloat env s key field x).hash k = s.hash k := by
  unfold hincrbyfloat Store.hash
  rw [valueOf_assign, if_neg h]

theorem hash_bounds (name labelKey : Text) (x : ℚ) (k : HashKey) (bounds : List Bound) (s : Store) :
    (bounds.foldl (fun s bound =>
      if x ≤ bound.value then hincrby s (.bucket name) (labelKey ++ separator ++ bound.text)
      else s) s).hash k =
    if k = .bucket name then tally (s.hash k)
        ((bounds.filter fun bound => x ≤ bound.value).map fun bound =>
          labelKey ++ separator ++ bound.text)
      else s.hash k := by
  induction bounds generalizing s with
  | nil => simp [tally]
  | cons bound bounds ih =>
    rw [List.foldl_cons, ih]
    by_cases hx : x ≤ bound.value
    · rw [if_pos hx, hash_hincrby, List.filter_cons_of_pos (by simpa using hx), List.map_cons]
      split
      · rfl
      · rfl
    · rw [if_neg hx, List.filter_cons_of_neg (by simpa using hx)]

theorem lookup_declared (h : (metric, bounds) ∈ histogramBuckets) :
    histogramBuckets.lookup metric = some bounds := by
  simp only [histogramBuckets, List.mem_cons, List.not_mem_nil, or_false, Prod.mk.injEq] at h
  rcases h with ⟨rfl, rfl⟩ | ⟨rfl, rfl⟩ | ⟨rfl, rfl⟩ | ⟨rfl, rfl⟩ <;> rfl

theorem declared_of_lookup (h : histogramBuckets.lookup metric = some bounds) :
    (metric, bounds) ∈ histogramBuckets := by
  obtain ⟨before, after, heq, -⟩ := List.lookup_eq_some_iff.mp h
  rw [heq]
  exact List.mem_append_right _ List.mem_cons_self

/-- The counts and buckets of a metric grow by what an observation adds. -/
def Adds (env : Env) (metric : Text) (bounds : List Bound) (s s' : Store) (o : Observation) :
    Prop :=
  s'.hash (.count metric) = tally (s.hash (.count metric))
      ((o.numeric metric).toList.map fun _ => labelsKey env o.labels) ∧
    s'.hash (.bucket metric) = tally (s.hash (.bucket metric))
      ((o.numeric metric).toList.flatMap (bucketFields bounds (labelsKey env o.labels)))

/-- An observation that is not counted for a metric leaves it alone. -/
theorem adds_of_numeric_none (h : o.numeric metric = none) {s' : Store}
    (hcount : s'.hash (.count metric) = s.hash (.count metric))
    (hbucket : s'.hash (.bucket metric) = s.hash (.bucket metric)) :
    Adds env metric bounds s s' o := by
  rw [Adds, h, hcount, hbucket]
  exact ⟨rfl, rfl⟩

section Finite

variable {buckets : List Bound} {x : ℚ}

/-- What an observation of a number that is not negative writes, for a declared metric. -/
theorem observeHistogram_finite (hlookup : histogramBuckets.lookup o.metric = some buckets)
    (hvalue : o.value = .finite x) (hnonneg : ¬x < 0) :
    observeHistogram env s o =
      hincrby (buckets.foldl (fun s bound =>
        if x ≤ bound.value then
          hincrby s (.bucket o.metric) (labelsKey env o.labels ++ separator ++ bound.text)
        else s)
        (hincrby (hincrbyfloat env s (.sum o.metric) (labelsKey env o.labels) x)
          (.count o.metric) (labelsKey env o.labels)))
        (.bucket o.metric) (labelsKey env o.labels ++ separator ++ infBound) := by
  have hname := sanitize_declared env (declared_of_lookup hlookup)
  unfold observeHistogram
  rw [hlookup, hvalue]
  dsimp only at hname ⊢
  rw [if_neg hnonneg, hname]

/-- It adds one to the counts of its metric. -/
theorem count_observe (hlookup : histogramBuckets.lookup o.metric = some buckets)
    (hvalue : o.value = .finite x) (hnonneg : ¬x < 0) (metric : Text) :
    (observeHistogram env s o).hash (.count metric) =
      if metric = o.metric then tally (s.hash (.count metric)) [labelsKey env o.labels]
      else s.hash (.count metric) := by
  have hsum : HashKey.count metric ≠ .sum o.metric := by simp
  have hbucket : HashKey.count metric ≠ .bucket o.metric := by simp
  rw [observeHistogram_finite hlookup hvalue hnonneg, hash_hincrby, if_neg hbucket, hash_bounds,
    if_neg hbucket, hash_hincrby, hash_hincrbyfloat _ _ _ hsum]
  exact if_congr ⟨fun he => HashKey.count.inj he, congrArg _⟩ rfl rfl

/-- It adds one to each bucket of its metric that it is in. -/
theorem bucket_observe (hlookup : histogramBuckets.lookup o.metric = some buckets)
    (hvalue : o.value = .finite x) (hnonneg : ¬x < 0) (metric : Text) :
    (observeHistogram env s o).hash (.bucket metric) =
      if metric = o.metric then
        tally (s.hash (.bucket metric)) (bucketFields buckets (labelsKey env o.labels) x)
      else s.hash (.bucket metric) := by
  have hsum : HashKey.bucket metric ≠ .sum o.metric := by simp
  have hcount : HashKey.bucket metric ≠ .count o.metric := by simp
  rw [observeHistogram_finite hlookup hvalue hnonneg, hash_hincrby, hash_bounds, hash_hincrby,
    if_neg hcount, hash_hincrbyfloat _ _ _ hsum]
  by_cases hmetric : metric = o.metric
  · rw [if_pos (congrArg _ hmetric), if_pos (congrArg _ hmetric), if_pos hmetric, ← tally_append]
    rfl
  · have hne : HashKey.bucket metric ≠ .bucket o.metric := fun he => hmetric (HashKey.bucket.inj he)
    rw [if_neg hne, if_neg hne, if_neg hmetric]

end Finite

theorem adds_observe (env : Env) (hentry : (metric, bounds) ∈ histogramBuckets) (s : Store)
    (o : Observation) : Adds env metric bounds s (observeHistogram env s o) o := by
  have hskip : o.numeric metric = none → observeHistogram env s o = s →
      Adds env metric bounds s (observeHistogram env s o) o := by
    intro hnone hsame
    rw [hsame]
    exact adds_of_numeric_none hnone rfl rfl
  cases hlookup : histogramBuckets.lookup o.metric with
  | none =>
    have hne : o.metric ≠ metric := by
      intro he
      rw [he, lookup_declared hentry] at hlookup
      cases hlookup
    apply hskip
    · unfold Observation.numeric
      split
      · exact if_neg fun h => hne h.1
      · rfl
    · unfold observeHistogram
      rw [hlookup]
  | some buckets =>
    cases hvalue : o.value with
    | finite x =>
      have hnumeric : o.numeric metric = if o.metric = metric ∧ 0 ≤ x then some x else none := by
        unfold Observation.numeric
        rw [hvalue]
      by_cases hneg : x < 0
      · apply hskip
        · rw [hnumeric, if_neg fun h => absurd hneg (not_lt.mpr h.2)]
        · unfold observeHistogram
          rw [hlookup, hvalue]
          exact if_pos hneg
      · have hcount := @count_observe env s o _ _ hlookup hvalue hneg metric
        have hbucket := @bucket_observe env s o _ _ hlookup hvalue hneg metric
        by_cases hmetric : o.metric = metric
        · have hbounds : buckets = bounds := by
            rw [hmetric, lookup_declared hentry] at hlookup
            exact (Option.some.inj hlookup).symm
          rw [if_pos hmetric.symm] at hcount hbucket
          rw [if_pos ⟨hmetric, not_lt.mp hneg⟩] at hnumeric
          rw [Adds, hcount, hbucket, hnumeric, hbounds]
          exact ⟨rfl, congrArg _ (List.append_nil _).symm⟩
        · rw [if_neg (Ne.symm hmetric)] at hcount hbucket
          rw [if_neg fun h => hmetric h.1] at hnumeric
          exact adds_of_numeric_none hnumeric hcount hbucket
    | raises =>
      exact hskip (by rw [Observation.numeric, hvalue]) (by rw [observeHistogram, hlookup, hvalue])
    | nan =>
      exact hskip (by rw [Observation.numeric, hvalue]) (by rw [observeHistogram, hlookup, hvalue])
    | infinite =>
      exact hskip (by rw [Observation.numeric, hvalue]) (by rw [observeHistogram, hlookup, hvalue])

/-! ## All observations -/

variable {obs : List Observation} {set : Dict Text Text}

/-- Every field that the observations add to the counts of a metric. -/
def countFields (env : Env) (obs : List Observation) (metric : Text) : List Text :=
  obs.flatMap fun o => (o.numeric metric).toList.map fun _ => labelsKey env o.labels

def allBucketFields (env : Env) (obs : List Observation) (metric : Text) (bounds : List Bound) :
    List Text :=
  obs.flatMap fun o =>
    (o.numeric metric).toList.flatMap (bucketFields bounds (labelsKey env o.labels))

theorem hash_observeAll (env : Env) (hentry : (metric, bounds) ∈ histogramBuckets)
    (obs : List Observation) :
    (observeAll env obs).hash (.count metric) = tally [] (countFields env obs metric) ∧
      (observeAll env obs).hash (.bucket metric) =
        tally [] (allBucketFields env obs metric bounds) := by
  have hfold : ∀ s : Store,
      (obs.foldl (observeHistogram env) s).hash (.count metric) =
          tally (s.hash (.count metric)) (countFields env obs metric) ∧
        (obs.foldl (observeHistogram env) s).hash (.bucket metric) =
          tally (s.hash (.bucket metric)) (allBucketFields env obs metric bounds) := by
    induction obs with
    | nil => exact fun s => ⟨rfl, rfl⟩
    | cons o obs ih =>
      intro s
      obtain ⟨hcount, hbucket⟩ := ih (observeHistogram env s o)
      obtain ⟨hcount', hbucket'⟩ := adds_observe env hentry s o
      rw [List.foldl_cons, hcount, hbucket, hcount', hbucket', ← tally_append, ← tally_append]
      exact ⟨rfl, rfl⟩
  exact hfold []

/-- The observed values of a metric with a label set. -/
def observed (env : Env) (obs : List Observation) (metric : Text) (set : Dict Text Text) : List ℚ :=
  obs.filterMap fun o => if labelSet env o.labels = set then o.numeric metric else none

theorem observed_cons : observed env (o :: obs) metric set =
    (if labelSet env o.labels = set then (o.numeric metric).toList else []) ++
      observed env obs metric set := by
  unfold observed
  rw [List.filterMap_cons]
  split_ifs
  · cases o.numeric metric <;> rfl
  · rfl

theorem count_countFields :
    (countFields env obs metric).count (keyOf set) = (observed env obs metric set).length := by
  induction obs with
  | nil => rfl
  | cons o obs ih =>
    rw [observed_cons, List.length_append, ← ih]
    unfold countFields
    rw [List.flatMap_cons, List.count_append, labelsKey_eq]
    congr 1
    cases o.numeric metric with
    | none => split_ifs <;> rfl
    | some x =>
      rw [Option.toList_some, List.map_singleton, List.count_singleton]
      by_cases hset : labelSet env o.labels = set
      · simp [hset]
      · have hne : keyOf (labelSet env o.labels) ≠ keyOf set := fun he => hset (keyOf_injective he)
        simp [hset, hne]

/-- The bounds of a metric and the infinite one are written differently, and without a bar. -/
theorem bounds_plain (hentry : (metric, bounds) ∈ histogramBuckets) :
    (bounds.map Bound.text ++ [infBound]).Nodup ∧
      ∀ text ∈ bounds.map Bound.text ++ [infBound], '|' ∉ text := by
  simp only [histogramBuckets, List.mem_cons, List.not_mem_nil, or_false, Prod.mk.injEq] at hentry
  rcases hentry with ⟨-, rfl⟩ | ⟨-, rfl⟩ | ⟨-, rfl⟩ | ⟨-, rfl⟩ <;> decide +kernel

/-- The bounds that a value does not exceed. -/
def reached (bounds : List Bound) (x : ℚ) : List Text :=
  (bounds.filter fun bound => x ≤ bound.value).map Bound.text ++ [infBound]

theorem bucketFields_eq {labelKey : Text} {x : ℚ} :
    bucketFields bounds labelKey x =
      (reached bounds x).map fun text => labelKey ++ separator ++ text := by
  simp [bucketFields, reached]

theorem reached_sublist {x : ℚ} :
    (reached bounds x).Sublist (bounds.map Bound.text ++ [infBound]) :=
  (List.filter_sublist.map Bound.text).append (List.Sublist.refl _)

/-- A field of the buckets counts the values that reach its bound. -/
theorem count_allBucketFields (hentry : (metric, bounds) ∈ histogramBuckets) {text : Text}
    (htext : text ∈ bounds.map Bound.text ++ [infBound]) :
    (allBucketFields env obs metric bounds).count (keyOf set ++ separator ++ text) =
      (observed env obs metric set).countP fun x => text ∈ reached bounds x := by
  obtain ⟨hnodup, hplain⟩ := bounds_plain hentry
  induction obs with
  | nil => rfl
  | cons o obs ih =>
    rw [observed_cons, List.countP_append, ← ih]
    unfold allBucketFields
    rw [List.flatMap_cons, List.count_append, labelsKey_eq]
    congr 1
    cases o.numeric metric with
    | none => split_ifs <;> rfl
    | some x =>
      rw [Option.toList_some, List.flatMap_singleton, bucketFields_eq]
      have hfields : ((reached bounds x).map fun text =>
          keyOf (labelSet env o.labels) ++ separator ++ text).Nodup :=
        (hnodup.sublist reached_sublist).map fun _ _ he => List.append_cancel_left he
      by_cases hset : labelSet env o.labels = set
      · subst hset
        rw [if_pos rfl, hfields.count, List.countP_singleton]
        congr 1
        simp
      · rw [if_neg hset, List.countP_nil, List.count_eq_zero]
        intro hmem
        obtain ⟨text', htext', he⟩ := List.mem_map.mp hmem
        have htext' := hplain _ (reached_sublist.subset htext')
        exact hset (field_injective htext' (hplain _ htext) he).1

/-! ## What is read from the hashes -/

variable {key : HashKey} {fields : List Text}

/-- The items of a hash of counts. -/
theorem valueOf_iterHashItems (h : s.hash key = tally [] fields) (field : Text) :
    valueOf (iterHashItems env s key) field =
      if field ∈ fields then some (toDouble (fields.count field)) else none := by
  have hperm := env.hgetall_perm (tally [] fields)
  have hnodup := (hperm.map Prod.fst).nodup_iff.mpr (nodup_tally_nil fields)
  rw [iterHashItems, h, valueOf_map, valueOf_perm hperm hnodup, valueOf_tally_nil]
  split <;> rfl

theorem nodup_iterHashItems (h : s.hash key = tally [] fields) :
    ((iterHashItems env s key).map Prod.fst).Nodup := by
  have hperm := env.hgetall_perm (tally [] fields)
  rw [iterHashItems, h, List.map_map]
  exact (hperm.map Prod.fst).nodup_iff.mpr (nodup_tally_nil fields)

theorem mem_iterHashItems (h : s.hash key = tally [] fields) {field : Text} {v : ℚ} :
    (field, v) ∈ iterHashItems env s key ↔
      field ∈ fields ∧ v = toDouble (fields.count field) := by
  rw [mem_iff_valueOf (nodup_iterHashItems h), valueOf_iterHashItems h]
  split
  next hmem => simp [hmem, eq_comm]
  next hmem => simp [hmem]

/-- The loop of `bucket_map`, over fields that name labels and a bound. -/
theorem valueOf_bucketLoop {text : Text} (htext : '|' ∉ text) (items : List (Text × ℚ))
    (hitems : ∀ e ∈ items, ∃ set text, '|' ∉ text ∧ e.1 = keyOf set ++ separator ++ text)
    (hnodup : (items.map Prod.fst).Nodup) (map : Dict (Text × Text) ℚ) :
    valueOf (items.foldl addBucket map) (keyOf set, text) =
      (valueOf items (keyOf set ++ separator ++ text)).or (valueOf map (keyOf set, text)) := by
  induction items generalizing map with
  | nil => rfl
  | cons e items ih =>
    obtain ⟨field, value⟩ := e
    obtain ⟨set', text', htext', rfl⟩ := hitems _ List.mem_cons_self
    rw [List.map_cons, List.nodup_cons] at hnodup
    have hrest := ih (fun e he => hitems e (List.mem_cons_of_mem _ he)) hnodup.2
    rw [List.foldl_cons, hrest, valueOf_cons, addBucket]
    dsimp only
    rw [rsplit_separator htext']
    dsimp only
    rw [valueOf_assign]
    by_cases hsame : keyOf set = keyOf set' ∧ text = text'
    · obtain ⟨hkey, rfl⟩ := hsame
      have hnone : valueOf items (keyOf set ++ separator ++ text) = none := by
        apply Option.eq_none_iff_forall_ne_some.mpr
        intro v hv
        apply hnodup.1
        rw [← hkey]
        exact List.mem_map.mpr ⟨_, (mem_iff_valueOf hnodup.2).mpr hv, rfl⟩
      rw [hkey, if_pos rfl, if_pos rfl, ← hkey, hnone]
      rfl
    · have hpair : (keyOf set, text) ≠ (keyOf set', text') :=
        fun heq => hsame (Prod.mk.inj heq)
      have hfield : keyOf set ++ separator ++ text ≠ keyOf set' ++ separator ++ text' := by
        intro heq
        obtain ⟨rfl, rfl⟩ := field_injective htext htext' heq
        exact hsame ⟨rfl, rfl⟩
      rw [if_neg hpair, if_neg hfield]

theorem mem_allBucketFields (hentry : (metric, bounds) ∈ histogramBuckets) {field : Text}
    (h : field ∈ allBucketFields env obs metric bounds) :
    ∃ set text, '|' ∉ text ∧ field = keyOf set ++ separator ++ text := by
  obtain ⟨o, -, hfield⟩ := List.mem_flatMap.mp h
  obtain ⟨x, -, hfield⟩ := List.mem_flatMap.mp hfield
  rw [bucketFields_eq, labelsKey_eq] at hfield
  obtain ⟨text, htext, rfl⟩ := List.mem_map.mp hfield
  exact ⟨_, text, (bounds_plain hentry).2 _ (reached_sublist.subset htext), rfl⟩

/-- A bucket of a label set, as it is read. -/
theorem bucket_read (hentry : (metric, bounds) ∈ histogramBuckets) (obs : List Observation)
    (set : Dict Text Text) {text : Text} (htext : text ∈ bounds.map Bound.text ++ [infBound]) :
    (valueOf (bucketMap env (observeAll env obs) metric) (keyOf set, text)).getD 0 =
      toDouble ((observed env obs metric set).countP fun x => text ∈ reached bounds x) := by
  have hhash := (hash_observeAll env hentry obs).2
  have hloop := @valueOf_bucketLoop set text ((bounds_plain hentry).2 _ htext)
    (iterHashItems env (observeAll env obs) (.bucket metric))
    (fun e he => mem_allBucketFields hentry ((mem_iterHashItems hhash).mp he).1)
    (nodup_iterHashItems hhash) []
  rw [bucketMap, hloop, valueOf_iterHashItems hhash, ← count_allBucketFields hentry htext]
  split
  next => rfl
  next hmem =>
    rw [List.count_eq_zero_of_not_mem hmem]
    simp [valueOf]

theorem mem_reached_bound (hentry : (metric, bounds) ∈ histogramBuckets) {bound : Bound}
    (hbound : bound ∈ bounds) (x : ℚ) : bound.text ∈ reached bounds x ↔ x ≤ bound.value := by
  obtain ⟨hnodup, -⟩ := bounds_plain hentry
  rw [List.nodup_append] at hnodup
  unfold reached
  rw [List.mem_append, List.mem_map, List.mem_singleton]
  constructor
  · rintro (⟨bound', hbound', he⟩ | he)
    · obtain ⟨hmem, hx⟩ := List.mem_filter.mp hbound'
      obtain rfl := List.inj_on_of_nodup_map hnodup.1 hmem hbound he
      exact of_decide_eq_true hx
    · exact absurd he (hnodup.2.2 _ (List.mem_map_of_mem hbound) _ List.mem_cons_self)
  · exact fun hx => .inl ⟨bound, List.mem_filter.mpr ⟨hbound, decide_eq_true hx⟩, rfl⟩

theorem mem_reached_inf (bounds : List Bound) (x : ℚ) : infBound ∈ reached bounds x :=
  List.mem_append_right _ List.mem_cons_self

theorem bound_read (hentry : (metric, bounds) ∈ histogramBuckets) (obs : List Observation)
    (set : Dict Text Text) {bound : Bound} (hbound : bound ∈ bounds) :
    (valueOf (bucketMap env (observeAll env obs) metric) (keyOf set, bound.text)).getD 0 =
      toDouble ((observed env obs metric set).countP fun x => x ≤ bound.value) := by
  rw [bucket_read hentry obs set (List.mem_append_left _ (List.mem_map_of_mem hbound))]
  congr 2
  apply List.countP_congr
  intro x _
  simp [mem_reached_bound hentry hbound]

theorem inf_read (hentry : (metric, bounds) ∈ histogramBuckets) (obs : List Observation)
    (set : Dict Text Text) :
    (valueOf (bucketMap env (observeAll env obs) metric) (keyOf set, infBound)).getD 0 =
      toDouble ((observed env obs metric set).length : ℚ) := by
  rw [bucket_read hentry obs set (List.mem_append_right _ List.mem_cons_self)]
  congr 2
  rw [List.countP_eq_length]
  exact fun x _ => decide_eq_true (mem_reached_inf bounds x)

/-! ## The series -/

/-- The lines of one label set, where `printed` is the number that a count is printed as. -/
def seriesLines (env : Env) (printed : ℕ → ℚ) (sum : Dict Text Text → ℚ) (obs : List Observation)
    (metric : Text) (bounds : List Bound) (set : Dict Text Text) : List Text :=
  let values := observed env obs metric set
  bounds.map (fun bound => line env (metric ++ "_bucket".toList)
    (assign set (leLabel, some bound.text)) (printed (values.countP (· ≤ bound.value)))) ++
  [line env (metric ++ "_bucket".toList) (assign set (leLabel, some infBound))
      (printed values.length),
    line env (metric ++ "_sum".toList) set (sum set),
    line env (metric ++ "_count".toList) set (printed values.length)]

/-- Every label set that was observed has one series. -/
theorem exists_series (env : Env) (hentry : (metric, bounds) ∈ histogramBuckets)
    (obs : List Observation) :
    ∃ (sets : List (Dict Text Text)) (sum : Dict Text Text → ℚ), sets.Nodup ∧
      (∀ set, set ∈ sets ↔ observed env obs metric set ≠ []) ∧
      histogramLines env (observeAll env obs) metric =
        sets.flatMap (seriesLines env (fun n => toDouble n) sum obs metric bounds) := by
  have hhash := (hash_observeAll env hentry obs).1
  have hkeys : ∀ e ∈ iterHashItems env (observeAll env obs) (.count metric),
      ∃ set, e = (keyOf set, toDouble ((observed env obs metric set).length : ℚ)) := by
    intro e he
    obtain ⟨hfield, hvalue⟩ := (mem_iterHashItems hhash).mp he
    obtain ⟨o, -, ho⟩ := List.mem_flatMap.mp hfield
    obtain ⟨x, -, hx⟩ := List.mem_map.mp ho
    refine ⟨labelSet env o.labels, Prod.ext (hx.symm.trans labelsKey_eq) ?_⟩
    rw [hvalue, ← hx, labelsKey_eq, count_countFields]
  have hmem : ∀ set, keyOf set ∈ countFields env obs metric ↔ observed env obs metric set ≠ [] := by
    intro set
    rw [← List.count_pos_iff, count_countFields, List.length_pos_iff]
  have hname := sanitize_declared env hentry
  refine ⟨(iterHashItems env (observeAll env obs) (.count metric)).map fun e => parseLabelsKey e.1,
    fun set => (valueOf (iterHashItems env (observeAll env obs) (.sum metric)) (keyOf set)).getD 0,
    ?_, ?_, ?_⟩
  · have hmap : (iterHashItems env (observeAll env obs) (.count metric)).map
        (fun e => parseLabelsKey e.1) =
        ((iterHashItems env (observeAll env obs) (.count metric)).map Prod.fst).map
          parseLabelsKey := by
      rw [List.map_map]
      rfl
    rw [hmap]
    refine (nodup_iterHashItems hhash).map_on ?_
    intro k hk k' hk' he
    obtain ⟨e, hmem, rfl⟩ := List.mem_map.mp hk
    obtain ⟨e', hmem', rfl⟩ := List.mem_map.mp hk'
    obtain ⟨set, rfl⟩ := hkeys e hmem
    obtain ⟨set', rfl⟩ := hkeys e' hmem'
    rw [parseLabelsKey_keyOf, parseLabelsKey_keyOf] at he
    rw [he]
  · intro set
    rw [← hmem]
    constructor
    · intro h
      obtain ⟨e, he, hset⟩ := List.mem_map.mp h
      obtain ⟨set', rfl⟩ := hkeys e he
      rw [parseLabelsKey_keyOf] at hset
      exact hset ▸ ((mem_iterHashItems hhash).mp he).1
    · intro h
      refine List.mem_map.mpr
        ⟨(keyOf set, toDouble ((countFields env obs metric).count (keyOf set))),
        (mem_iterHashItems hhash).mpr ⟨h, rfl⟩, parseLabelsKey_keyOf set⟩
  · unfold histogramLines
    rw [hname, lookup_declared hentry, List.flatMap_map]
    apply List.flatMap_congr
    intro e he
    obtain ⟨set, rfl⟩ := hkeys e he
    dsimp only
    rw [parseLabelsKey_keyOf, seriesLines, inf_read hentry, Option.getD_some]
    congr 1
    apply List.map_congr_left
    intro bound hbound
    rw [bound_read hentry obs set hbound]

/-! ## Reading the lines -/

/-- The labels of a line, for the reader: the bound is one of them in a bucket line. -/
def shownLabels (env : Env) (labels : List (Text × Option Text)) (text : Option Text) :
    Dict Text Text :=
  sortLabels (text.toList.map (leLabel, ·) ++ originalLabels env labels)

/-- The labels of a line, as the code has them. -/
def linedLabels (env : Env) (labels : List (Text × Option Text)) (text : Option Text) :
    Dict Text Text :=
  match text with
  | some text => assign (labelSet env labels) (leLabel, some text)
  | none => labelSet env labels

/-- The names and bounds of the lines of a metric. -/
def lineHeads (metric : Text) (bounds : List Bound) : List (Text × Option Text) :=
  (bounds.map Bound.text ++ [infBound]).map (fun text => (metric ++ "_bucket".toList, some text)) ++
    [(metric ++ "_sum".toList, none), (metric ++ "_count".toList, none)]

theorem leLabel_not_mem : ∀ label ∈ originalLabels env labels, label.1 ≠ leLabel := by
  intro label hlabel he
  have hallowed := (originalLabels_plain label hlabel).1
  rw [he] at hallowed
  exact absurd hallowed (by decide)

/-- No character of the name ends it, and the bound needs no escape. -/
def plainHead (head : Text × Option Text) : Bool :=
  (head.1.all fun c => !endsName c && c != '\n') && head.1.head? != some '#' && head.1 != [] &&
    head.2.all fun text => escapeValue text == text && !text.contains '\n'

theorem lineHeads_plainHead (hentry : (metric, bounds) ∈ histogramBuckets) :
    (lineHeads metric bounds).all plainHead = true := by
  simp only [histogramBuckets, List.mem_cons, List.not_mem_nil, or_false, Prod.mk.injEq] at hentry
  rcases hentry with ⟨rfl, rfl⟩ | ⟨rfl, rfl⟩ | ⟨rfl, rfl⟩ | ⟨rfl, rfl⟩ <;> decide +kernel

/-- A name or bound of a declared metric needs no escape. -/
theorem lineHeads_plain (hentry : (metric, bounds) ∈ histogramBuckets) :
    ∀ head ∈ lineHeads metric bounds, (∀ c ∈ head.1, endsName c = false ∧ c ≠ '\n') ∧
      head.1.head? ≠ some '#' ∧ head.1 ≠ [] ∧
      ∀ text ∈ head.2, escapeValue text = text ∧ '\n' ∉ text := by
  intro head hhead
  have hplain := List.all_eq_true.mp (lineHeads_plainHead hentry) head hhead
  simpa [plainHead, and_assoc, Option.all_eq_true] using hplain

theorem sortLabels_linedLabels {text : Option Text} (h : ∀ t ∈ text, escapeValue t = t) :
    sortLabels (linedLabels env labels text) = escapeLabels (shownLabels env labels text) := by
  have hsorted : ∀ d d' : Dict Text Text, d.Perm (escapeLabels d') →
      (d'.map Prod.fst).Nodup → sortLabels d = escapeLabels (sortLabels d') := by
    intro d d' hperm hnodup
    have hkeys : (escapeLabels d').map Prod.fst = d'.map Prod.fst := by
      rw [escapeLabels, List.map_map]
      rfl
    have hd : (d.map Prod.fst).Nodup := (hperm.map Prod.fst).nodup_iff.mpr (hkeys ▸ hnodup)
    rw [sortLabels_congr hperm hd]
    exact sortLabels_map _ fun _ => rfl
  have hset : (labelSet env labels).Perm (escapeLabels (originalLabels env labels)) := by
    rw [labelSet, normalizeLabels_eq]
    exact sortLabels_perm _
  cases text with
  | none => exact hsorted _ _ hset originalLabels_nodup
  | some t =>
    refine hsorted _ _ ?_ ?_
    · have hrest : (labelSet env labels).filter (·.1 ≠ leLabel) = labelSet env labels := by
        apply List.filter_eq_self.mpr
        intro label hlabel
        obtain ⟨original, horiginal, rfl⟩ := List.mem_map.mp (hset.mem_iff.mp hlabel)
        exact decide_eq_true (leLabel_not_mem original horiginal)
      have hcons : linedLabels env labels (some t) = (leLabel, t) :: labelSet env labels :=
        congrArg ((leLabel, t) :: ·) hrest
      have hescape : escapeLabels ([t].map (leLabel, ·) ++ originalLabels env labels) =
          (leLabel, t) :: escapeLabels (originalLabels env labels) := by
        rw [escapeLabels, List.map_append]
        change (leLabel, escapeValue t) :: _ = _
        rw [h t rfl]
        rfl
      rw [hcons, Option.toList_some, hescape]
      exact hset.cons _
    · rw [Option.toList_some]
      refine List.nodup_cons.mpr ⟨fun hmem => ?_, originalLabels_nodup⟩
      obtain ⟨label, hlabel, he⟩ := List.mem_map.mp hmem
      exact leLabel_not_mem label hlabel he

theorem shownLabels_plain (env : Env) (labels : List (Text × Option Text)) {text : Option Text}
    (h : ∀ t ∈ text, '\n' ∉ t) :
    ∀ label ∈ shownLabels env labels text,
      '=' ∉ label.1 ∧ '\n' ∉ label.1 ∧ '\n' ∉ label.2 := by
  intro label hlabel
  rcases List.mem_append.mp ((sortLabels_perm _).mem_iff.mp hlabel) with hle | horiginal
  · obtain ⟨t, ht, rfl⟩ := List.mem_map.mp hle
    exact ⟨(by decide : '=' ∉ leLabel), (by decide : '\n' ∉ leLabel), h t (Option.mem_toList.mp ht)⟩
  · obtain ⟨hallowed, hvalue⟩ := originalLabels_plain label horiginal
    have hnames : ∀ key ∈ allowedLabelKeys, '=' ∉ key ∧ '\n' ∉ key := by decide +kernel
    exact ⟨(hnames _ hallowed).1, (hnames _ hallowed).2, hvalue⟩

theorem line_eq {name : Text} {text : Option Text} (h : ∀ t ∈ text, escapeValue t = t) (v : ℚ) :
    line env name (linedLabels env labels text) v =
      sampleText name (escapeLabels (shownLabels env labels text)) (env.floatText v) := by
  rw [line, sortedLabelsText, sortLabels_linedLabels h]
  rfl

theorem readSample_line (hentry : (metric, bounds) ∈ histogramBuckets) {head : Text × Option Text}
    (hhead : head ∈ lineHeads metric bounds) (labels : List (Text × Option Text)) (v : ℚ) :
    readSample (line env head.1 (linedLabels env labels head.2) v) =
      some ⟨head.1, shownLabels env labels head.2, env.floatText v⟩ := by
  obtain ⟨hname, hcomment, hne, htext⟩ := lineHeads_plain hentry head hhead
  rw [line_eq fun t ht => (htext t ht).1]
  apply readSample_sampleText (fun c hc => (hname c hc).1) hcomment hne
  intro label hlabel
  have hplain := shownLabels_plain env labels (fun t ht => (htext t ht).2) label hlabel
  exact ⟨hplain.1, hplain.2.2⟩

theorem newline_not_mem_line (hentry : (metric, bounds) ∈ histogramBuckets)
    {head : Text × Option Text} (hhead : head ∈ lineHeads metric bounds)
    (labels : List (Text × Option Text)) (v : ℚ) :
    '\n' ∉ line env head.1 (linedLabels env labels head.2) v := by
  obtain ⟨hname, -, -, htext⟩ := lineHeads_plain hentry head hhead
  rw [line_eq fun t ht => (htext t ht).1]
  apply newline_not_mem_sampleText (fun hc => (hname _ hc).2 rfl) (env.floatText_line v)
  intro label hlabel
  have hplain := shownLabels_plain env labels (fun t ht => (htext t ht).2) label hlabel
  exact ⟨hplain.2.1, hplain.2.2⟩

/-- The lines of a series, by their names and bounds. -/
theorem mem_seriesLines {printed : ℕ → ℚ} {sum : Dict Text Text → ℚ} {text : Text}
    (h : text ∈ seriesLines env printed sum obs metric bounds (labelSet env labels)) :
    ∃ head ∈ lineHeads metric bounds, ∃ v,
      text = line env head.1 (linedLabels env labels head.2) v := by
  rcases List.mem_append.mp h with h | h
  · obtain ⟨bound, hbound, rfl⟩ := List.mem_map.mp h
    refine ⟨(metric ++ "_bucket".toList, some bound.text), List.mem_append_left _ ?_, _, rfl⟩
    exact List.mem_map_of_mem (List.mem_append_left _ (List.mem_map_of_mem hbound))
  · simp only [List.mem_cons, List.not_mem_nil, or_false] at h
    rcases h with rfl | rfl | rfl
    · refine ⟨(metric ++ "_bucket".toList, some infBound), List.mem_append_left _ ?_, _, rfl⟩
      exact List.mem_map_of_mem (List.mem_append_right _ List.mem_cons_self)
    · exact ⟨(metric ++ "_sum".toList, none),
        List.mem_append_right _ List.mem_cons_self, _, rfl⟩
    · exact ⟨(metric ++ "_count".toList, none),
        List.mem_append_right _ (List.mem_cons_of_mem _ List.mem_cons_self), _, rfl⟩

/-- The labels that are shown determine the label set and the bound. -/
theorem shownLabels_injective {labels' : List (Text × Option Text)} {text text' : Option Text}
    (h : shownLabels env labels text = shownLabels env labels' text') :
    labelSet env labels = labelSet env labels' ∧ text = text' := by
  have hperm : (text.toList.map (leLabel, ·) ++ originalLabels env labels).Perm
      (text'.toList.map (leLabel, ·) ++ originalLabels env labels') :=
    (sortLabels_perm _).symm.trans ((List.Perm.of_eq h).trans (sortLabels_perm _))
  have hother : ∀ (labels : List (Text × Option Text)) (text : Option Text),
      (text.toList.map (leLabel, ·) ++ originalLabels env labels).filter (·.1 ≠ leLabel) =
        originalLabels env labels := by
    intro labels text
    rw [List.filter_append, List.filter_eq_self.mpr fun label hlabel =>
      decide_eq_true (leLabel_not_mem label hlabel)]
    cases text <;> simp
  have hle : ∀ (labels : List (Text × Option Text)) (text : Option Text),
      (text.toList.map (leLabel, ·) ++ originalLabels env labels).filter (·.1 = leLabel) =
        text.toList.map (leLabel, ·) := by
    intro labels text
    have hnone : (originalLabels env labels).filter (·.1 = leLabel) = [] :=
      List.filter_eq_nil_iff.mpr fun label hlabel he =>
        leLabel_not_mem label hlabel (of_decide_eq_true he)
    rw [List.filter_append, hnone, List.append_nil]
    cases text <;> simp
  constructor
  · have horiginal := hperm.filter (·.1 ≠ leLabel)
    rw [hother, hother] at horiginal
    rw [labelSet, labelSet, normalizeLabels_eq, normalizeLabels_eq]
    apply sortLabels_congr (horiginal.map _)
    rw [List.map_map]
    exact originalLabels_nodup
  · have hbound := hperm.filter (·.1 = leLabel)
    rw [hle, hle] at hbound
    cases text <;> cases text' <;> simp_all

/-! ## The export -/

/-- The export of a histogram, where `printed` is the number that a count is printed as. -/
structure ExportsSeries (printed : ℕ → ℚ) (env : Env) (obs : List Observation) (metric : Text)
    (bounds : List Bound) : Prop where
  /-- one series for each normalised label set that was observed, with its counts -/
  series : ∃ (sets : List (Dict Text Text)) (sum : Dict Text Text → ℚ), sets.Nodup ∧
    (∀ set, set ∈ sets ↔ ∃ o ∈ obs, labelSet env o.labels = set ∧ o.numeric metric ≠ none) ∧
    histogramLines env (observeAll env obs) metric =
      sets.flatMap (seriesLines env printed sum obs metric bounds)
  /-- the lines are in the page, and each is one line -/
  printed_lines : ∀ others, histogramLines env (observeAll env obs) metric <:+:
    renderLines env others (observeAll env obs)
  one_line : ∀ text ∈ histogramLines env (observeAll env obs) metric, '\n' ∉ text
  nondecreasing : ∀ set, ∀ b ∈ bounds, ∀ b' ∈ bounds, b.value ≤ b'.value →
    let values := observed env obs metric set
    printed (values.countP (· ≤ b.value)) ≤ printed (values.countP (· ≤ b'.value)) ∧
      printed (values.countP (· ≤ b'.value)) ≤ printed values.length
  /-- a line is read back with the original labels -/
  read_back : ∀ head ∈ lineHeads metric bounds, ∀ o ∈ obs, ∀ v,
    readSample (line env head.1 (linedLabels env o.labels head.2) v) =
      some ⟨head.1, shownLabels env o.labels head.2, env.floatText v⟩
  /-- lines of different label sets or bounds have different labels -/
  apart : ∀ head ∈ lineHeads metric bounds, ∀ head' ∈ lineHeads metric bounds,
    ∀ o ∈ obs, ∀ o' ∈ obs,
    sortedLabelsText (linedLabels env o.labels head.2) =
      sortedLabelsText (linedLabels env o'.labels head'.2) →
    labelSet env o.labels = labelSet env o'.labels ∧ head.2 = head'.2

theorem observed_ne_nil {set : Dict Text Text} : observed env obs metric set ≠ [] ↔
    ∃ o ∈ obs, labelSet env o.labels = set ∧ o.numeric metric ≠ none := by
  rw [← List.length_pos_iff, List.length_pos_iff_exists_mem]
  unfold observed
  simp only [List.mem_filterMap]
  constructor
  · rintro ⟨x, o, ho, hx⟩
    split at hx
    next hset => exact ⟨o, ho, hset, by rw [hx]; exact nofun⟩
    next => cases hx
  · rintro ⟨o, ho, hset, hnumeric⟩
    obtain ⟨x, hx⟩ := Option.ne_none_iff_exists'.mp hnumeric
    exact ⟨x, o, ho, by rw [if_pos hset, hx]⟩

theorem declared_in_help (hentry : (metric, bounds) ∈ histogramBuckets) :
    ∃ entry ∈ metricsHelp, entry.1.toList = metric ∧ entry.2.1 = .histogram := by
  simp only [histogramBuckets, List.mem_cons, List.not_mem_nil, or_false, Prod.mk.injEq] at hentry
  rcases hentry with ⟨rfl, -⟩ | ⟨rfl, -⟩ | ⟨rfl, -⟩ | ⟨rfl, -⟩ <;> simp [metricsHelp]

theorem histogramLines_infix (hentry : (metric, bounds) ∈ histogramBuckets)
    (others : String → List Text) (s : Store) :
    histogramLines env s metric <:+: renderLines env others s := by
  obtain ⟨entry, hmem, rfl, htype⟩ := declared_in_help hentry
  have hsection : histogramLines env s entry.1.toList <:+ metricLines env others s entry := by
    unfold metricLines
    rw [if_pos htype]
    exact List.suffix_append _ _
  refine hsection.isInfix.trans ?_
  rw [renderLines, List.flatMap_def]
  exact List.infix_of_mem_flatten (List.mem_map_of_mem hmem)

/-- The texts of two numbers tell whether they are 2^53. -/
def markingEnv : Env where
  isAlnum _ := false
  addFloat x y := x + y
  hgetall hash := hash
  hgetall_perm _ := .refl _
  floatText x := if x = 2 ^ 53 then ['a'] else ['b']
  floatText_line x := by split <;> decide

/-- One second, without labels. -/
def oneSecond : Observation where
  metric := "backup_task_duration_seconds".toList
  value := .finite 1
  labels := []

/-- The bounds of `oneSecond`'s metric. -/
theorem oneSecond_declared :
    (oneSecond.metric, [1, 2, 5, 10, 20, 30, 60, 120, 300, 600, 1200].map whole) ∈
      histogramBuckets :=
  List.mem_cons_self

/-- Counts are printed as doubles, which below 2^53 are the counts themselves. -/
theorem exportsSeries_double (env : Env) (obs : List Observation)
    (hentry : (metric, bounds) ∈ histogramBuckets) :
    ExportsSeries (fun n => toDouble n) env obs metric bounds ∧
      ∀ n : ℕ, n < 2 ^ 53 → toDouble n = n := by
  obtain ⟨sets, sum, hnodup, hsets, hlines⟩ := exists_series env hentry obs
  have hmono : ∀ {m n : ℕ}, m ≤ n → toDouble (m : ℚ) ≤ toDouble n := fun h =>
    toDouble_mono (Nat.cast_nonneg _) (Nat.cast_le.mpr h)
  refine ⟨⟨⟨sets, sum, hnodup, fun set => (hsets set).trans observed_ne_nil, hlines⟩,
    fun others => histogramLines_infix hentry others _, ?_, ?_, ?_, ?_⟩,
    fun n hn => toDouble_natCast hn⟩
  · intro text htext
    rw [hlines] at htext
    obtain ⟨set, hset, htext⟩ := List.mem_flatMap.mp htext
    obtain ⟨o, -, rfl, -⟩ := observed_ne_nil.mp ((hsets set).mp hset)
    obtain ⟨head, hhead, v, rfl⟩ := mem_seriesLines htext
    exact newline_not_mem_line hentry hhead o.labels v
  · intro set b _ b' _ hle
    refine ⟨hmono (List.countP_mono_left fun x _ hx => ?_), hmono List.countP_le_length⟩
    exact decide_eq_true (le_trans (of_decide_eq_true hx) hle)
  · exact fun head hhead o _ v => readSample_line hentry hhead o.labels v
  · intro head hhead head' hhead' o _ o' _ he
    have htext := (lineHeads_plain hentry head hhead).2.2.2
    have htext' := (lineHeads_plain hentry head' hhead').2.2.2
    rw [sortedLabelsText, sortedLabelsText, sortLabels_linedLabels fun t ht => (htext t ht).1,
      sortLabels_linedLabels fun t ht => (htext' t ht).1] at he
    have hplain := shownLabels_plain env o.labels fun t ht => (htext t ht).2
    have hplain' := shownLabels_plain env o'.labels fun t ht => (htext' t ht).2
    exact shownLabels_injective (labelsText_injective
      (fun label hlabel => ⟨(hplain label hlabel).1, (hplain label hlabel).2.2⟩)
      (fun label hlabel => ⟨(hplain' label hlabel).1, (hplain' label hlabel).2.2⟩) he)

theorem exportsSeries_oneSecond :
    ExportsSeries (fun n => toDouble n) markingEnv [oneSecond, oneSecond] oneSecond.metric
        ([1, 2, 5, 10, 20, 30, 60, 120, 300, 600, 1200].map whole) ∧
      ∀ n : ℕ, n < 2 ^ 53 → toDouble n = n :=
  exportsSeries_double markingEnv [oneSecond, oneSecond] oneSecond_declared

/-! ## More observations than a double counts -/

/-- The first integer that is no double. -/
theorem toDouble_rounds : toDouble ((2 ^ 53 + 1 : ℕ) : ℚ) = 2 ^ 53 := by
  have hlog : Int.log 2 ((2 ^ 53 + 1 : ℕ) : ℚ) = 53 := by
    rw [Int.log_natCast]
    exact congrArg Nat.cast (Nat.log_eq_of_pow_le_of_lt_pow (by norm_num) (by norm_num))
  have hulp : ulp ((2 ^ 53 + 1 : ℕ) : ℚ) = 2 := by
    rw [ulp, hlog]
    norm_num
  have hfloor : ⌊((2 ^ 53 + 1 : ℕ) : ℚ) / 2⌋ = 2 ^ 52 := by
    rw [Int.floor_eq_iff]
    norm_num
  rw [toDouble, hulp, roundHalfEven, hfloor, if_neg (by norm_num), if_neg (by norm_num),
    if_pos (by norm_num)]
  norm_num

theorem numeric_oneSecond : oneSecond.numeric oneSecond.metric = some 1 := by
  show (if oneSecond.metric = oneSecond.metric ∧ (0 : ℚ) ≤ 1 then some (1 : ℚ) else none) = some 1
  exact if_pos ⟨rfl, by norm_num⟩

theorem observed_replicate (n : ℕ) :
    observed markingEnv (List.replicate n oneSecond) oneSecond.metric [] = List.replicate n 1 := by
  unfold observed
  have hlabels : labelSet markingEnv oneSecond.labels = [] := rfl
  rw [List.filterMap_replicate, if_pos hlabels, numeric_oneSecond]

/-- Observations without labels have one series, which ends with their count. -/
theorem getLast_series (printed : ℕ → ℚ) (bounds : List Bound) (sum : Dict Text Text → ℚ)
    {sets : List (Dict Text Text)} {n : ℕ} (hn : 0 < n) (hnodup : sets.Nodup)
    (hsets : ∀ labels, labels ∈ sets ↔ ∃ o ∈ List.replicate n oneSecond,
      labelSet markingEnv o.labels = labels ∧ o.numeric oneSecond.metric ≠ none) :
    (sets.flatMap (seriesLines markingEnv printed sum (List.replicate n oneSecond)
      oneSecond.metric bounds)).getLast? =
    some (line markingEnv (oneSecond.metric ++ "_count".toList) [] (printed n)) := by
  have hnil : ∀ labels, labels ∈ sets ↔ labels = [] := by
    intro labels
    rw [hsets]
    constructor
    · rintro ⟨o, ho, hlabels, -⟩
      rw [List.eq_of_mem_replicate ho] at hlabels
      exact hlabels.symm
    · intro hlabels
      refine ⟨oneSecond, List.mem_replicate.mpr ⟨hn.ne', rfl⟩, hlabels.symm, ?_⟩
      rw [numeric_oneSecond]
      exact nofun
  have hone : sets = [[]] :=
    List.perm_singleton.mp ((List.perm_ext_iff_of_nodup hnodup (List.nodup_singleton _)).mpr
      fun labels => (hnil labels).trans List.mem_singleton.symm)
  rw [hone, List.flatMap_singleton, seriesLines, observed_replicate, List.length_replicate,
    List.getLast?_append]
  rfl

/-- The count of 2^53 + 1 observations is printed as 2^53. -/
theorem count_rounded : ¬ ∀ env obs metric bounds, (metric, bounds) ∈ histogramBuckets →
    ExportsSeries (fun n => n) env obs metric bounds := by
  intro h
  obtain ⟨n, hn⟩ : ∃ n : ℕ, n = 2 ^ 53 + 1 := ⟨_, rfl⟩
  have hpos : 0 < n := by omega
  obtain ⟨sets, sum, hnodup, hsets, hlines⟩ :=
    (h markingEnv (List.replicate n oneSecond) _ _ oneSecond_declared).series
  obtain ⟨sets', sum', hnodup', hsets', hlines'⟩ :=
    exists_series markingEnv oneSecond_declared (List.replicate n oneSecond)
  have hsets'' := fun labels => (hsets' labels).trans observed_ne_nil
  have hlast := (congrArg List.getLast? hlines).trans (getLast_series _ _ sum hpos hnodup hsets)
  rw [hlines', getLast_series _ _ sum' hpos hnodup' hsets''] at hlast
  have hmark : markingEnv.floatText (toDouble n) = markingEnv.floatText n :=
    (List.cons.inj (List.append_cancel_left (Option.some.inj hlast))).2
  have hrounds : toDouble (n : ℚ) = 2 ^ 53 := hn ▸ toDouble_rounds
  have hne : (n : ℚ) ≠ 2 ^ 53 := by
    rw [hn]
    norm_num
  rw [hrounds] at hmark
  simp only [markingEnv, if_neg hne, if_true] at hmark
  exact absurd hmark (by decide)

end BackupCenter.Metrics
