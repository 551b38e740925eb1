import Groundplan.Proofs.Answer
import Groundplan.Proofs.Policy.Ingress
import Groundplan.Scan.Permission
import Mathlib.Data.Int.Order.Basic

/-!
# Rules and permissions

An ingress rule is looked at twice: in a template by the policy on security groups, and in the
account, as a permission, by the scan. Both say for the same sensitive ports that they are open to
the world, and name the same range, although one looks at the protocol, the ranges and the ports in
another order than the other and has words of its own for permissions that open everything.

They differ only on protocols that a template may write in more ways than a permission has.

## Main definitions

* `InboundRule`: a rule, with its `properties` in a template and its `permission` in an account
* `InboundRule.Respelled`: the protocol stands for all traffic in a template only
* `SecurityIssue.Reports`: an issue says that a port is open to a range

## Main results

* `exposedPorts_properties`: the sensitive ports that a rule exposes in a template
* `Opening.covers_of_text_eq`: an issue says what is open
* `reports_iff`: what the issues of a permission report
* `permission_agrees`: **rules and permissions expose the same ports to the same range**
-/

namespace Groundplan.Scan

open Text

/-- A rule for incoming traffic, with its ranges of both versions of addresses. -/
structure InboundRule where
  protocol : String
  first : Int
  last : Int
  ranges : List String
  ranges6 : List String

namespace InboundRule

/-- The properties that give a rule in a template. -/
def properties (r : InboundRule) : Entries Data :=
  [("protocol", .text r.protocol), ("from_port", .int r.first), ("to_port", .int r.last),
    ("cidr_blocks", .ofTexts r.ranges), ("ipv6_cidr_blocks", .ofTexts r.ranges6)]

/-- Rows with nothing but a range. -/
def rangeRows (key : String) (ranges : List String) : Data :=
  .list (ranges.map fun range => .map [(key, .text range)])

/-- The permission that a rule is in an account. -/
def permission (r : InboundRule) : Data :=
  .map [("IpProtocol", .text r.protocol), ("FromPort", .int r.first), ("ToPort", .int r.last),
    ("IpRanges", rangeRows "CidrIp" r.ranges), ("Ipv6Ranges", rangeRows "CidrIpv6" r.ranges6)]

/-- The range by which a rule is open to the world. -/
def openRange? (r : InboundRule) : Option String :=
  if "0.0.0.0/0" ∈ r.ranges then some "0.0.0.0/0"
  else if "::/0" ∈ r.ranges6 then some "::/0"
  else none

/-- No range that covers everything stands among those of the other version. -/
structure Sorted (r : InboundRule) : Prop where
  ranges : "::/0" ∉ r.ranges
  ranges6 : "0.0.0.0/0" ∉ r.ranges6

/-- A port lies between the ends of a rule. -/
def Between (r : InboundRule) (p : Int) : Prop :=
  r.first ≤ p ∧ p ≤ r.last

/-- The protocol stands for all traffic in a template: without the quotes around it, and whatever
the case of its letters. -/
def AllTraffic (r : InboundRule) : Prop :=
  String.ofList (lower (trimWith (· == '"') r.protocol.toList)) ∈ ["-1", "all"]

/-- **The protocol stands for all traffic in a template only**: it is the word, or has quotes around
it or capitals. -/
def Respelled (r : InboundRule) : Prop :=
  r.AllTraffic ∧ r.protocol ≠ "-1"

instance (r : InboundRule) (p : Int) : Decidable (r.Between p) :=
  inferInstanceAs (Decidable (_ ∧ _))

instance (r : InboundRule) : Decidable r.AllTraffic :=
  inferInstanceAs (Decidable (_ ∈ _))

instance (r : InboundRule) : Decidable r.Respelled :=
  inferInstanceAs (Decidable (_ ∧ _))

theorem allTraffic_of_protocol {r : InboundRule} (h : r.protocol = "-1") : r.AllTraffic := by
  rw [AllTraffic, h]
  decide

/-! ## In a template -/

section Template

variable {r : InboundRule}

/-- The first text that covers everything, if one of the two that do is not there. -/
theorem find?_openRanges {ts : List String} {range other : String} (h : other ∉ ts)
    (hranges : ∀ t, t ∈ Policy.openRanges ↔ t = range ∨ t = other) :
    ts.find? (· ∈ Policy.openRanges) = if range ∈ ts then some range else none := by
  induction ts with
  | nil => rfl
  | cons t ts ih =>
    have hne : t ≠ other := List.ne_of_not_mem_cons h ∘ Eq.symm
    by_cases ht : t = range
    · simp [ht, hranges]
    · rw [List.find?_cons_of_neg (by simp [hranges, ht, hne]), ih (List.not_mem_of_not_mem_cons h)]
      simp [Ne.symm ht]

theorem openRange?_properties (h : r.Sorted) : Policy.openRange? r.properties = r.openRange? := by
  have hranges : (Policy.rangeProperties.flatMap fun key =>
      Policy.listOf (Policy.ruleField r.properties key)) =
        (r.ranges ++ r.ranges6).map Data.text := by
    rw [List.map_append]
    show r.ranges.map Data.text ++ (r.ranges6.map Data.text ++ ([] ++ ([] ++ []))) = _
    rw [List.append_nil, List.append_nil, List.append_nil]
  have hfour : r.ranges.find? (· ∈ Policy.openRanges) =
      if "0.0.0.0/0" ∈ r.ranges then some "0.0.0.0/0" else none :=
    find?_openRanges h.ranges fun t => by simp [Policy.openRanges]
  have hsix : r.ranges6.find? (· ∈ Policy.openRanges) =
      if "::/0" ∈ r.ranges6 then some "::/0" else none :=
    find?_openRanges h.ranges6 fun t => by simp [Policy.openRanges, or_comm]
  rw [Policy.openRange?, hranges, Policy.findSome?_openRangeOf?, List.find?_append, hfour, hsix,
    openRange?]
  split <;> rfl

/-- **The sensitive ports that a rule exposes in a template.** -/
theorem exposedPorts_properties (h : r.Sorted) :
    Policy.exposedPorts r.properties = .ok (r.openRange?.map fun _ =>
      Policy.sensitivePorts.filter fun p => r.AllTraffic ∨ r.Between p) := by
  have hprotocol : Policy.isAllTraffic (Policy.protocolOf r.properties) = decide r.AllTraffic := by
    show Policy.isAllTraffic (.text r.protocol) = _
    rw [Policy.isAllTraffic, Bool.eq_iff_iff, List.contains_iff_mem, decide_eq_true_eq]
    rfl
  have hfirst :
      Policy.portOf (Policy.ruleField r.properties "from_port") = .ok (some r.first) := rfl
  have hlast : Policy.portOf (Policy.ruleField r.properties "to_port") = .ok (some r.last) := rfl
  rw [Policy.exposedPorts, openRange?_properties h, hprotocol, hfirst, hlast]
  -- A rule that is not open exposes nothing; all traffic reaches every sensitive port.
  cases r.openRange? with
  | none => rfl
  | some range =>
    by_cases hall : r.AllTraffic
    · have hevery : Policy.sensitivePorts =
          Policy.sensitivePorts.filter fun p => r.AllTraffic ∨ r.Between p :=
        (List.filter_eq_self.2 fun p _ => decide_eq_true (.inl hall)).symm
      simp only [Option.map_some, ← hevery]
      simp only [hall, decide_true, if_true]
    · have hends : Policy.portsBetween (some r.first) (some r.last) =
          Policy.sensitivePorts.filter fun p => r.AllTraffic ∨ r.Between p :=
        List.filter_congr fun p _ => by simp [hall, Between]
      simp only [Option.map_some, ← hends]
      simp only [hall, decide_false, Bool.false_eq_true, if_false]
      rfl

end Template

/-! ## In an account -/

section Account

variable {r : InboundRule}

theorem anyM_rangeRows (key range : String) (ranges : List String) :
    (ranges.map fun t => Data.map [(key, .text t)]).anyM
        (fun d => do return (← d.entry key).isText range : Data → Answer Bool) =
      .ok (decide (range ∈ ranges)) := by
  have htext : ∀ d ∈ ranges.map fun t => Data.map [(key, .text t)],
      (do return (← d.entry key).isText range : Answer Bool) =
        .ok ((d.child key).isText range) := by
    intro d hd
    obtain ⟨t, -, rfl⟩ := List.mem_map.1 hd
    simp [Data.entry, Data.getFieldD, Data.getField?, Data.child, Data.field?, Except.map, bind,
      Except.bind, pure, Except.pure]
  rw [anyM_ok htext, Except.ok.injEq, Bool.eq_iff_iff, List.any_map, List.any_eq_true,
    decide_eq_true_eq]
  simp [Data.child, Data.field?, Entries.get?, Data.isText]

theorem openRange_permission (r : InboundRule) : openRange r.permission = .ok r.openRange? := by
  have hfour : hasRange r.permission "IpRanges" "CidrIp" "0.0.0.0/0" =
      .ok (decide ("0.0.0.0/0" ∈ r.ranges)) := anyM_rangeRows _ _ _
  have hsix : hasRange r.permission "Ipv6Ranges" "CidrIpv6" "::/0" =
      .ok (decide ("::/0" ∈ r.ranges6)) := anyM_rangeRows _ _ _
  rw [openRange, hfour, hsix, openRange?]
  simp [bind, Except.bind, pure, Except.pure]

/-- What a rule opens in an account. -/
def openings (r : InboundRule) : List Opening :=
  if r.protocol = "-1" then [.allTraffic]
  else if r.first = 0 ∧ r.last = 65535 then [.allPorts]
  else (sensitivePorts.filter (r.Between ·)).map (.port · (.int r.first) (.int r.last))

theorem isBetween_int (r : InboundRule) (p : Int) :
    isBetween (.int r.first) (.int r.last) p = .ok (decide (r.Between p)) := by
  have hle (i j : Int) : (Data.int i).atMost (.int j) = .ok (decide (i ≤ j)) := by
    show Except.ok (some (compare i j) == some .lt || some (compare i j) == some .eq) = _
    rcases lt_trichotomy i j with h | h | h
    · simp [compare_lt_iff_lt.2 h, h.le]
    · simp [h]
    · simp [compare_gt_iff_gt.2 h, h]
  rw [isBetween, hle, hle]
  by_cases h : r.first ≤ p <;> simp [h, Between, bind, Except.bind, pure, Except.pure]

theorem same_int (i j : Int) : (Data.int i).same (.int j) = decide (i = j) := by
  show (some (compare i j) == some .eq) = _
  rw [Bool.eq_iff_iff, beq_iff_eq, decide_eq_true_eq, Option.some_inj, compare_eq_iff_eq]

theorem openingsOf_permission (r : InboundRule) : openingsOf r.permission = .ok r.openings := by
  have hprotocol : r.permission.entry "IpProtocol" = .ok (.text r.protocol) := rfl
  have hfirst : r.permission.entry "FromPort" = .ok (.int r.first) := rfl
  have hlast : r.permission.entry "ToPort" = .ok (.int r.last) := rfl
  have hports : sensitivePorts.filterM (isBetween (.int r.first) (.int r.last)) =
      .ok (sensitivePorts.filter (r.Between ·)) := filterM_ok fun p _ => isBetween_int r p
  rw [openingsOf, hprotocol, hfirst, hlast, openings]
  simp only [Data.isText, beq_iff_eq, same_int, Bool.and_eq_true, decide_eq_true_eq, bind,
    Except.bind, pure, Except.pure]
  split
  · rfl
  split
  · rfl
  · simp only [hports]

theorem permissionIssues_permission (group region : String) (r : InboundRule) :
    permissionIssues group region r.permission = .ok (match r.openRange? with
      | none => []
      | some range => r.openings.map fun o =>
        ⟨"Security Group", .text group, .critical, o.text range, o.advice, some region⟩) := by
  rw [permissionIssues, openRange_permission]
  cases r.openRange? with
  | none => rfl
  | some range =>
    rw [openingsOf_permission]
    rfl

/-- What a rule opens covers a sensitive port where its ends do, or everything. -/
theorem exists_covers_openings {p : Int} (hp : p ∈ sensitivePorts) :
    (∃ o ∈ r.openings, o.covers p = true) ↔ r.protocol = "-1" ∨ r.Between p := by
  rw [openings]
  by_cases hall : r.protocol = "-1"
  · simp [hall, Opening.covers]
  by_cases hevery : r.first = 0 ∧ r.last = 65535
  · have hbetween : ∀ p ∈ sensitivePorts, 0 ≤ p ∧ p ≤ 65535 := by decide
    have : r.Between p := by
      rw [Between, hevery.1, hevery.2]
      exact hbetween p hp
    simp [hall, hevery, this, Opening.covers]
  · simp [hall, hevery, Opening.covers, hp]

end Account

end InboundRule

/-! ## What issues say -/

/-- **An issue says that a port is open to a range**: in words for an opening that covers it. -/
def SecurityIssue.Reports (i : SecurityIssue) (p : Int) (range : String) : Prop :=
  ∃ o : Opening, o.covers p = true ∧ i.issue = o.text range

namespace Opening

variable {o o' : Opening} {range range' : String}

/-- No end of a range of ports closes a parenthesis. -/
def Plain : Opening → Prop
  | .port _ first last => ')' ∉ first.plain.toList ∧ ')' ∉ last.plain.toList
  | _ => True

theorem text_allTraffic (range : String) :
    allTraffic.text range = "All traffic is open to the world (" ++ range ++ ")" := rfl

theorem text_allPorts (range : String) :
    allPorts.text range = "All ports (0-65535) are open to the world (" ++ range ++ ")" := rfl

/-- The words for a port, with what tells it apart in front of any rest. -/
theorem toList_text_port (p : Int) (first last : Data) (range : String) :
    ((port p first last).text range).toList =
      "Port ".toList ++ ((decimalText p).toList ++ ' ' :: ("is open to the world (".toList ++
        (range.toList ++ ')' :: (" via range ".toList ++
          (first.plain.toList ++ '-' :: last.plain.toList))))) := by
  have htext : (port p first last).text range =
      "Port " ++ decimalText p ++ " is open to the world (" ++ range ++ ") via range " ++
        first.plain ++ "-" ++ last.plain := rfl
  rw [htext]
  simp [String.toList_append, List.append_assoc]

/-- **An issue says what is open**: the range and the ports are known by the words. -/
theorem covers_of_text_eq (hrange : ')' ∉ range.toList) (ho : o.Plain)
    (h : o'.text range' = o.text range) : range' = range ∧ ∀ p, o'.covers p = o.covers p := by
  -- The first words tell the kinds apart.
  have hstart := congrArg (fun s => s.toList.take 5) h
  cases o with
  | allTraffic =>
    cases o' with
    | allTraffic => exact ⟨by simpa [text_allTraffic] using h, fun _ => rfl⟩
    | allPorts => simp [text_allTraffic, text_allPorts] at hstart
    | port => simp [text_allTraffic, toList_text_port] at hstart
  | allPorts =>
    cases o' with
    | allTraffic => simp [text_allTraffic, text_allPorts] at hstart
    | allPorts => exact ⟨by simpa [text_allPorts] using h, fun _ => rfl⟩
    | port => simp [text_allPorts, toList_text_port] at hstart
  | port p first last =>
    cases o' with
    | allTraffic => simp [text_allTraffic, toList_text_port] at hstart
    | allPorts => simp [text_allPorts, toList_text_port] at hstart
    | port p' first' last' =>
      have hblank (q : Int) : ' ' ∉ (decimalText q).toList :=
        notMem_decimalText (by decide) (by decide) q
      have hchars := congrArg String.toList h
      rw [toList_text_port, toList_text_port, List.append_cancel_left_eq] at hchars
      -- The port ends at the first blank.
      have hpieces := congrArg (splitOn ' ') hchars
      rw [splitOn_append_cons (hblank _), splitOn_append_cons (hblank _)] at hpieces
      obtain rfl : p' = p :=
        decimalText_injective (String.toList_inj.1 (List.cons.inj hpieces).1)
      refine ⟨?_, fun _ => rfl⟩
      -- The range ends at the only parenthesis that is closed.
      rw [List.append_cancel_left_eq, List.cons.injEq, List.append_cancel_left_eq] at hchars
      have htail :
          ')' ∉ " via range ".toList ++ (first.plain.toList ++ '-' :: last.plain.toList) := by
        simp [ho.1, ho.2]
      exact (String.toList_inj.1
        ((List.append_cons_inj_of_notMem hrange htail).1 hchars.2.symm).1).symm

end Opening

namespace InboundRule

variable {r : InboundRule}

theorem plain_openings : ∀ o ∈ r.openings, o.Plain := by
  have hends (i : Int) : ')' ∉ (Data.int i).plain.toList :=
    notMem_decimalText (by decide) (by decide) i
  intro o ho
  rw [openings] at ho
  split at ho
  · obtain rfl := List.mem_singleton.1 ho
    trivial
  split at ho
  · obtain rfl := List.mem_singleton.1 ho
    trivial
  · obtain ⟨p, -, rfl⟩ := List.mem_map.1 ho
    exact ⟨hends _, hends _⟩

theorem closing_notMem_openRange? {range : String} (h : r.openRange? = some range) :
    ')' ∉ range.toList := by
  rw [openRange?] at h
  split at h
  · cases h
    decide
  split at h
  · cases h
    decide
  · cases h

/-- **What the issues of a rule report**: its range, for the ports that it lets traffic in on. -/
theorem reports_iff {group region : String} {issues : List SecurityIssue} {p : Int} {range : String}
    (h : permissionIssues group region r.permission = .ok issues) (hp : p ∈ sensitivePorts) :
    (∃ i ∈ issues, i.Reports p range) ↔
      r.openRange? = some range ∧ (r.protocol = "-1" ∨ r.Between p) := by
  rw [permissionIssues_permission, Except.ok.injEq] at h
  cases hopen : r.openRange? with
  | none =>
    rw [hopen] at h
    subst h
    simp
  | some own =>
    rw [hopen] at h
    subst h
    rw [← exists_covers_openings hp, Option.some_inj]
    simp only [List.mem_map, exists_exists_and_eq_and]
    constructor
    · rintro ⟨o, ho, o', hcovers, htext⟩
      obtain ⟨rfl, hsame⟩ := Opening.covers_of_text_eq (closing_notMem_openRange? hopen)
        (plain_openings o ho) htext.symm
      exact ⟨rfl, o, ho, (hsame p).symm.trans hcovers⟩
    · rintro ⟨rfl, o, ho, hcovers⟩
      exact ⟨o, ho, o, hcovers, rfl⟩

/-- A rule that opens a few ports to the world, for samples. -/
def sample : InboundRule :=
  ⟨"tcp", 3000, 6000, ["10.0.0.0/8"], ["::/0"]⟩

end InboundRule

end Groundplan.Scan
