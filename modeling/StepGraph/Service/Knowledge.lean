import StepGraph.Program
import StepGraph.Text.Blank
import StepGraph.Text.Case

namespace StepGraph

structure Fact where
  text : String
  category : String
  tags : List String := []
deriving Repr, DecidableEq, Inhabited

/-- Facts by domain, and how many of a category a lookup gives at most. -/
structure KnowledgeBase where
  domains : List (String × List Fact)
  limit : Int := 3
deriving Repr, Inhabited

/-- The words of a text in small letters; a comma separates words as a blank does. -/
def textTerms (s : String) : List String :=
  (Text.wordsFrom (fun c => c = ',' || Text.isBlank c) [] s.toList).map fun word =>
    String.ofList (Text.lower word)

mutual

/-- The words of all texts inside a value; keys and other values have none. -/
def Value.terms : Value → List String
  | .text s => textTerms s
  | .list items => itemTerms items
  | .record entries => entryTerms entries
  | _ => []

def itemTerms : List Value → List String
  | [] => []
  | item :: rest => item.terms ++ itemTerms rest

def entryTerms : List (String × Value) → List String
  | [] => []
  | (_, value) :: rest => value.terms ++ entryTerms rest

end

namespace Fact

def score (terms : List String) (fact : Fact) : Nat :=
  ((fact.tags.map String.lowered).eraseDups.filter terms.contains).length

end Fact

def generalTerm : String := "general"

def takeLimit (limit : Int) (items : List α) : List α :=
  if 0 ≤ limit then items.take limit.toNat else items.take (items.length - limit.natAbs)

namespace KnowledgeBase

def addFact (base : KnowledgeBase) (domain : String) (fact : Fact) : KnowledgeBase :=
  { base with domains := updateDomain base.domains }
where
  updateDomain : List (String × List Fact) → List (String × List Fact)
    | [] => [(domain, [fact])]
    | (name, facts) :: rest =>
        if name = domain then (name, facts ++ [fact]) :: rest
        else (name, facts) :: updateDomain rest

def factsOf (base : KnowledgeBase) (domain : String) : List Fact :=
  (base.domains.lookup domain).getD []

/-- The matching facts of a category, those with more matching tags first. -/
def ranked (terms : List String) (facts : List Fact) : List Fact :=
  facts.mergeSort fun a b => decide (b.score terms ≤ a.score terms)

def lookup (base : KnowledgeBase) (domain : String) (params : Value) : Facts :=
  let terms := params.terms ++ [generalTerm]
  let matching := (base.factsOf domain).filter fun fact => 0 < fact.score terms
  (matching.map (·.category)).eraseDups.map fun category =>
    (category,
      (takeLimit base.limit (ranked terms (matching.filter (·.category == category)))).map (·.text))

def standardFact (category text : String) (tags : List String) : Fact :=
  ⟨text, category, tags⟩

/-- The facts that are known unless others are given. -/
def standard : KnowledgeBase where
  domains :=
    [("policy",
      [standardFact "threat_context" "Credential theft through over-privileged IAM roles"
          ["iam", "general"],
        standardFact "threat_context" "Publicly readable object storage buckets" ["s3", "storage"],
        standardFact "threat_context" "Key material exfiltration through permissive key policies"
          ["kms"],
        standardFact "compliance_requirements" "SOC2 CC6.1 logical access controls" ["soc2"],
        standardFact "compliance_requirements" "CIS benchmark: enforce MFA for privileged users"
          ["cis", "general"],
        standardFact "compliance_requirements" "ISO27001 A.9 access control policy" ["iso27001"],
        standardFact "compliance_requirements" "NIST AC-6 least privilege" ["nist"],
        standardFact "similar_policies" "Least-privilege IAM role policy for production workloads"
          ["iam", "production"],
        standardFact "similar_policies" "Bucket policy denying unencrypted uploads" ["s3"],
        standardFact "best_practices" "Grant the minimum permissions required" ["general"],
        standardFact "best_practices" "Enable audit logging for all administrative actions"
          ["general", "production"],
        standardFact "best_practices" "Rotate encryption keys annually" ["kms"]]),
      ("threat",
        [standardFact "similar_threats" "Privilege escalation through role chaining"
            ["iam", "privilege"],
          standardFact "similar_threats" "Ransomware staged from compromised storage"
            ["s3", "ransomware"],
          standardFact "mitigation_strategies" "Revoke active sessions and rotate credentials"
            ["general"],
          standardFact "mitigation_strategies" "Apply deny-by-default guardrail policies"
            ["general", "iam"],
          standardFact "policy_impact" "iam-baseline" ["iam"],
          standardFact "policy_impact" "storage-encryption" ["s3", "storage"]]),
      ("compliance",
        [standardFact "requirements" "Access reviews performed quarterly" ["soc2", "iso27001"],
          standardFact "requirements" "Encryption at rest for sensitive data"
            ["soc2", "nist", "cis"],
          standardFact "requirements" "Multi-factor authentication for administrators"
            ["cis", "nist", "general"],
          standardFact "requirements" "Documented incident response plan" ["iso27001", "nist"]])]

end KnowledgeBase

end StepGraph
