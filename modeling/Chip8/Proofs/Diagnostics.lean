/-
When it is decided what is printed.

The variable that lists the categories can change at any time, but it is read only when a
category is asked for or a message offered, and then not again before it is to be forgotten.  The
answers over a whole history of requests therefore hang on one moment: the first asking behind
the last forgetting, or, if there was none, the present one.  `beforeReading` is the requests up
to that moment, and `active_serveEach` says that the categories which hold are those that the
variable listed then.  A list without a name in it is kept as any other is.

What a value of the variable lists is said without a look at how it is read: `Lists` takes the
parts between commas, finds what is left between the blanks of each, and spells it in small
letters.
-/
import Chip8.Proofs.Watching
import Mathlib.Data.List.DropRight

namespace Chip8

/-! ### A text between blanks -/

/-- Whether a text is another one with ignored characters before and behind it, of which it has
none at its own ends. -/
structure Between (ignored : Char → Bool) (text core : List Char) : Prop where
  split : ∃ before after, text = before ++ core ++ after ∧
    (∀ c ∈ before, ignored c = true) ∧ ∀ c ∈ after, ignored c = true
  first : ∀ c ∈ core.head?, ignored c = false
  last : ∀ c ∈ core.getLast?, ignored c = false

section Between

variable {ignored : Char → Bool} {text core : List Char}

theorem trim_eq_rdropWhile (ignored : Char → Bool) (text : List Char) :
    trim ignored text = (text.dropWhile ignored).rdropWhile ignored := rfl

/-- Trimming leaves such a text. -/
theorem between_trim (ignored : Char → Bool) (text : List Char) :
    Between ignored text (trim ignored text) := by
  rw [trim_eq_rdropWhile]
  constructor
  case split =>
    refine ⟨text.takeWhile ignored, (text.dropWhile ignored).rtakeWhile ignored, ?_, ?_, ?_⟩
    · rw [List.append_assoc, List.rdropWhile_append_rtakeWhile, List.takeWhile_append_dropWhile]
    · intro c hc
      exact List.mem_takeWhile_imp hc
    · intro c hc
      exact List.mem_rtakeWhile_imp hc
  case first =>
    intro c hc
    have hdrop := List.head?_dropWhile_not ignored text
    rw [← List.rdropWhile_append_rtakeWhile (p := ignored) (l := text.dropWhile ignored),
      List.head?_append, Option.mem_def.mp hc] at hdrop
    exact hdrop
  case last =>
    intro c hc
    obtain ⟨hne, rfl⟩ := List.mem_getLast?_eq_getLast hc
    simpa using List.rdropWhile_last_not ignored (text.dropWhile ignored) hne

/-- Only one text is left between the ignored characters of another. -/
theorem Between.trim_eq (h : Between ignored text core) : trim ignored text = core := by
  obtain ⟨⟨before, after, rfl, hbefore, hafter⟩, hfirst, hlast⟩ := h
  rw [trim_eq_rdropWhile, List.append_assoc, List.dropWhile_append_of_pos hbefore]
  cases core with
  | nil =>
      rw [List.nil_append, List.dropWhile_eq_nil_iff.mpr hafter, List.rdropWhile_nil]
  | cons c rest =>
      have hc : ¬ ignored c = true := by simpa using hfirst c rfl
      have hafter' : ∀ c ∈ after.reverse, ignored c = true := by
        intro c hc
        exact hafter c (List.mem_reverse.mp hc)
      have hkeep : (c :: rest).rdropWhile ignored = c :: rest := by
        refine List.rdropWhile_eq_self_iff.mpr fun hne => ?_
        simpa using hlast _ (List.getLast?_eq_some_getLast hne)
      rw [List.cons_append, List.dropWhile_cons_of_neg hc, ← List.cons_append, List.rdropWhile,
        List.reverse_append, List.dropWhile_append_of_pos hafter']
      exact hkeep

theorem between_iff : Between ignored text core ↔ trim ignored text = core := by
  constructor
  · exact Between.trim_eq
  · rintro rfl
    exact between_trim ignored text

end Between

namespace Diagnostics

variable {d : Diagnostics} {value name : String}

/-! ### What a value lists -/

/-- Whether a value of the variable lists a name: it is what stands between the blanks of a part
between commas, in small letters. -/
def Lists (value name : String) : Prop :=
  ∃ part ∈ value.toList.splitOn ',', ∃ core, Between isBlank part core ∧ core ≠ [] ∧
    name = String.ofList (lowercase core)

theorem commaParts_eq_splitOn (text : List Char) : commaParts text = text.splitOn ',' := by
  fun_induction commaParts text with
  | case1 => rfl
  | case2 rest ih =>
      rw [List.splitOn_cons_eq_if_modifyHead, ih]
      rfl
  | case3 c rest hc hparts ih =>
      rw [hparts] at ih
      exact absurd ih.symm (List.splitOn_ne_nil _ _)
  | case4 c rest hc part parts hparts ih =>
      rw [List.splitOn_cons_eq_if_modifyHead, ← ih, hparts, if_neg (by simpa using hc)]
      rfl

/-- **The categories that are read from a value are those that it lists.** -/
theorem mem_categories_iff : name ∈ categories value ↔ Lists value name := by
  simp only [categories, List.mem_eraseDups, commaParts_eq_splitOn, List.mem_map, List.mem_filter,
    Lists, between_iff]
  constructor
  · rintro ⟨core, ⟨⟨part, hpart, hcore⟩, hne⟩, rfl⟩
    exact ⟨part, hpart, core, hcore, by simpa using hne, rfl⟩
  · rintro ⟨part, hpart, core, hcore, hne, rfl⟩
    exact ⟨core, ⟨⟨part, hpart, hcore⟩, by simpa using hne⟩, rfl⟩

/-- Whether a category is to be printed while the categories of a value hold. -/
def Permits (value : String) (category : Option String) : Prop :=
  (∃ name, Lists value name) ∧ (category = none ∨ Lists value "all" ∨
    ∃ c, category = some c ∧ Lists value (String.ofList (lowercase c.toList)))

theorem allows_categories_iff (value : String) (category : Option String) :
    allows (categories value) category = true ↔ Permits value category := by
  have hempty : (categories value).isEmpty = false ↔ ∃ name, Lists value name := by
    simp only [List.isEmpty_eq_false_iff_exists_mem, mem_categories_iff]
  cases category with
  | none => simp [allows, Permits, hempty]
  | some c => simp [allows, Permits, hempty, mem_categories_iff]

/-! ### A history of requests -/

/-- What can be done about diagnostics. -/
inductive Request where
  | setVariable (value : String)
  | removeVariable
  | forget
  | ask (category : Option String)
  | log (category template : String) (values : List TemplateValue)

namespace Request

/-- Whether a request reads the variable, unless what it said is still known. -/
def reads : Request → Bool
  | .ask _ | .log _ _ _ => true
  | .setVariable _ | .removeVariable | .forget => false

/-- Whether a request lets what the variable said be forgotten. -/
def forgets : Request → Bool
  | .forget => true
  | .setVariable _ | .removeVariable | .ask _ | .log _ _ _ => false

/-- What a request makes of the variable, if anything. -/
def written? : Request → Option (Option String)
  | .setVariable value => some (some value)
  | .removeVariable => some none
  | .forget | .ask _ | .log _ _ _ => none

end Request

/-- The diagnostics after a request. -/
def serve (d : Diagnostics) : Request → Diagnostics
  | .setVariable value => d.setVariable (some value)
  | .removeVariable => d.setVariable none
  | .forget => d.forget
  | .ask category => (d.ask category).2
  | .log category template values => d.logFilled category template values

/-- The diagnostics after several requests. -/
def serveEach (d : Diagnostics) (requests : List Request) : Diagnostics := requests.foldl serve d

variable {request : Request} {requests : List Request}

theorem serveEach_append (d : Diagnostics) (requests more : List Request) :
    d.serveEach (requests ++ more) = (d.serveEach requests).serveEach more :=
  List.foldl_append

/-! ### The variable -/

/-- The value of the variable after requests: what was written last, or the value before them. -/
def settingAfter (setting : Option String) (requests : List Request) : Option String :=
  (requests.filterMap Request.written?).getLast?.getD setting

/-- An offered message changes what a question changes, and what was printed. -/
theorem exists_logFilled_eq (d : Diagnostics) (category template : String)
    (values : List TemplateValue) :
    ∃ printed, d.logFilled category template values = { d.consulted with printed := printed } := by
  rw [logFilled]
  cases h : d.enabled (some category) with
  | true => exact ⟨_, log_of_enabled h⟩
  | false => exact ⟨d.printed, log_of_disabled h⟩

theorem setting_serve (d : Diagnostics) (request : Request) :
    (d.serve request).setting = request.written?.getD d.setting := by
  cases request with
  | setVariable | removeVariable | forget | ask => rfl
  | log category template values =>
    obtain ⟨printed, h⟩ := exists_logFilled_eq d category template values
    rw [serve, h]
    rfl

theorem setting_serveEach (d : Diagnostics) (requests : List Request) :
    (d.serveEach requests).setting = settingAfter d.setting requests := by
  induction requests generalizing d with
  | nil => rfl
  | cons request rest ih =>
      have hrest : (d.serveEach (request :: rest)).setting
          = settingAfter (request.written?.getD d.setting) rest := by
        rw [← setting_serve]
        exact ih (d.serve request)
      rw [hrest, settingAfter, settingAfter, List.filterMap_cons]
      cases request.written? with
      | none => rfl
      | some value => rw [List.getLast?_cons, Option.getD_some]; rfl

/-! ### What is kept of it -/

/-- What the variable said is known once it was read, -/
theorem cached_serve_of_reads (d : Diagnostics) (hreads : request.reads = true) :
    (d.serve request).cached = some d.active := by
  cases request with
  | setVariable | removeVariable | forget => cases hreads
  | ask => rfl
  | log category template values =>
    obtain ⟨printed, h⟩ := exists_logFilled_eq d category template values
    rw [serve, h]
    rfl

/-- not before, -/
theorem cached_serve_of_not_reads (hd : d.cached = none) (hreads : request.reads = false) :
    (d.serve request).cached = none := by
  cases request with
  | setVariable | removeVariable => exact hd
  | forget => rfl
  | ask | log => cases hreads

/-- and then until it is to be forgotten. -/
theorem cached_serve_of_not_forgets {names : List String} (hd : d.cached = some names)
    (hkeep : request.forgets = false) : (d.serve request).cached = some names := by
  have hactive : d.active = names := by rw [active, hd, Option.getD_some]
  cases request with
  | setVariable | removeVariable => exact hd
  | forget => cases hkeep
  | ask | log => rw [cached_serve_of_reads d rfl, hactive]

theorem cached_serveEach_of_kept {names : List String} (hd : d.cached = some names)
    (hkeep : ∀ request ∈ requests, request.forgets = false) :
    (d.serveEach requests).cached = some names := by
  refine List.foldlRecOn (motive := fun d => d.cached = some names) requests serve hd ?_
  intro d hd request hmem
  exact cached_serve_of_not_forgets hd (hkeep request hmem)

theorem cached_serveEach_of_unread (hd : d.cached = none)
    (hunread : ∀ request ∈ requests, request.reads = false) :
    (d.serveEach requests).cached = none := by
  refine List.foldlRecOn (motive := fun d => d.cached = none) requests serve hd ?_
  intro d hd request hmem
  exact cached_serve_of_not_reads hd (hunread request hmem)

/-- Nothing is known right after the last forgetting, nor at the start. -/
theorem cached_forgotten (hd : d.cached = none) (requests : List Request) :
    (d.serveEach (requests.rdropWhile fun request => !request.forgets)).cached = none := by
  generalize hbefore : requests.rdropWhile (fun request => !request.forgets) = before
  rcases List.eq_nil_or_concat' before with rfl | ⟨earlier, last, rfl⟩
  · exact hd
  · have hlast : last = .forget := by
      have hnot := List.rdropWhile_last_not (fun request : Request => !request.forgets)
        requests (by rw [hbefore]; simp)
      simp only [hbefore] at hnot
      cases last <;> simp [Request.forgets] at hnot ⊢
    rw [hlast, serveEach_append]
    rfl

/-! ### The moment of the reading -/

/-- The requests behind the last forgetting, or all of them. -/
def sinceForgotten (requests : List Request) : List Request :=
  requests.rtakeWhile fun request => !request.forgets

/-- The requests before the first one behind the last forgetting that reads the variable; all of
them if none does. -/
def beforeReading (requests : List Request) : List Request :=
  requests.rdropWhile (fun request => !request.forgets)
    ++ (sinceForgotten requests).takeWhile fun request => !request.reads

/-- The value that the variable has at that moment.  One that is not set counts as empty. -/
def settled (setting : Option String) (requests : List Request) : String :=
  (settingAfter setting (beforeReading requests)).getD ""

theorem beforeReading_append (requests : List Request) :
    beforeReading requests ++ (sinceForgotten requests).dropWhile (fun request => !request.reads)
      = requests := by
  rw [beforeReading, List.append_assoc, List.takeWhile_append_dropWhile, sinceForgotten,
    List.rdropWhile_append_rtakeWhile]

/-- The variable was not read up to that moment. -/
theorem cached_beforeReading (hd : d.cached = none) (requests : List Request) :
    (d.serveEach (beforeReading requests)).cached = none := by
  rw [beforeReading, serveEach_append]
  refine cached_serveEach_of_unread (cached_forgotten hd requests) fun request hmem => ?_
  simpa using List.mem_takeWhile_imp hmem

/-- **The categories that hold are those that the variable listed when it was last read.** -/
theorem active_serveEach (hd : d.cached = none) (requests : List Request) :
    (d.serveEach requests).active = categories (settled d.setting requests) := by
  have hbefore : (d.serveEach (beforeReading requests)).active
      = categories (settled d.setting requests) := by
    rw [active, cached_beforeReading hd, Option.getD_none, setting_serveEach, settled]
  rw [← hbefore]
  conv_lhs => rw [← beforeReading_append requests, serveEach_append]
  have hreads := List.head?_dropWhile_not (fun request : Request => !request.reads)
    (sinceForgotten requests)
  have hkept : ∀ request ∈ (sinceForgotten requests).dropWhile fun request => !request.reads,
      request.forgets = false := by
    intro request hmem
    simpa using List.mem_rtakeWhile_imp ((List.dropWhile_suffix _).subset hmem)
  -- Behind the moment there is nothing, or what reads the variable and what keeps the answer.
  cases hafter : (sinceForgotten requests).dropWhile fun request => !request.reads with
  | nil => rfl
  | cons first more =>
      rw [hafter, List.head?_cons] at hreads
      rw [hafter, List.forall_mem_cons] at hkept
      have hread : first.reads = true := by simpa using hreads
      have hfirst := cached_serve_of_reads (d.serveEach (beforeReading requests)) hread
      have hmore := cached_serveEach_of_kept hfirst hkept.2
      change (serveEach _ more).active = _
      rw [active, hmore, Option.getD_some]

/-- **Whether a category is printed hangs on what the variable was when it was first read behind
the last forgetting, and on nothing since.** -/
theorem ask_iff_permits_settled (setting : Option String) (requests : List Request)
    (category : Option String) :
    (((start setting).serveEach requests).ask category).1 = true
      ↔ Permits (settled setting requests) category := by
  change allows ((start setting).serveEach requests).active category = true ↔ _
  rw [active_serveEach rfl]
  exact allows_categories_iff _ _

/-- Capital letters make no difference, neither in the variable nor in what is asked for. -/
theorem ask_iff_permits_settled_capitals :
    ∃ d, (start (some " Cpu ,SOUND")).serveEach [.ask none, .setVariable ""] = d ∧
      (d.ask (some "CPU")).1 = true ∧ (d.ask (some "sound")).1 = true ∧
      (d.ask (some "CP")).1 = false := by
  have hsettled : settled (some " Cpu ,SOUND") [.ask none, .setVariable ""] = " Cpu ,SOUND" := by
    decide
  have hcpu : Lists " Cpu ,SOUND" "cpu" := mem_categories_iff.mp (by decide +kernel)
  have hsound : Lists " Cpu ,SOUND" "sound" := mem_categories_iff.mp (by decide +kernel)
  refine ⟨_, rfl, ?_, ?_, ?_⟩
  · rw [ask_iff_permits_settled, hsettled]
    exact ⟨⟨_, hcpu⟩, .inr (.inr ⟨_, rfl, hcpu⟩)⟩
  · rw [ask_iff_permits_settled, hsettled]
    exact ⟨⟨_, hsound⟩, .inr (.inr ⟨_, rfl, hsound⟩)⟩
  · rw [← Bool.not_eq_true, ask_iff_permits_settled, hsettled, ← allows_categories_iff]
    decide +kernel

/-- An empty list is kept as any other is, until it is to be forgotten. -/
example :
    (((start none).serveEach [.ask none, .setVariable "all"]).ask none).1 = false
      ∧ (((start none).serveEach [.ask none, .setVariable "all", .forget]).ask none).1 = true := by
  decide

end Diagnostics

end Chip8
