import Groundplan.Failure

/-!
# Role templates

The stack templates with which a customer creates a role that trusts this installation: one role to
deploy with, limited to what it tags itself, and one that only reads.

## Main definitions

* `deployRoleTemplate`: the template of the role to deploy with
* `readActions`, `readRoleTemplate`: what the reading role may do, and its template
-/

namespace Groundplan

/-- Actions as the items of a list, eighteen blanks deep. -/
def bullets (actions : List String) : List String :=
  actions.map fun a => "                  - '" ++ a ++ "'"

/-- The lines of the template of the role to deploy with. -/
def deployRoleLines (app external account : String) : List String :=
  [ "AWSTemplateFormatVersion: '2010-09-09'",
    "Description: " ++ app ++ " deployment role - allows " ++ app ++
      " to deploy Terraform resources",
    "",
    "Parameters:",
    "  ExternalId:",
    "    Type: String",
    "    Default: '" ++ external ++ "'",
    "    Description: External ID for secure cross-account access",
    "",
    "Resources:",
    "  DeploymentRole:",
    "    Type: AWS::IAM::Role",
    "    Properties:",
    "      RoleName: " ++ app ++ "-deployment-role",
    "      AssumeRolePolicyDocument:",
    "        Version: '2012-10-17'",
    "        Statement:",
    "          - Effect: Allow",
    "            Principal:",
    "              AWS: 'arn:aws:iam::" ++ account ++ ":root'",
    "            Action: 'sts:AssumeRole'",
    "            Condition:",
    "              StringEquals:",
    "                'sts:ExternalId': !Ref ExternalId",
    "      Policies:",
    "        - PolicyName: " ++ app ++ "-deployment-policy",
    "          PolicyDocument:",
    "            Version: '2012-10-17'",
    "            Statement:",
    "              - Sid: ResourceManagement",
    "                Effect: Allow",
    "                Action:" ] ++
  bullets [
    "ec2:*", "rds:*", "s3:*", "lambda:*", "dynamodb:*", "elasticloadbalancing:*", "ecs:*",
    "route53:*", "cloudfront:*", "cloudwatch:*", "logs:*", "secretsmanager:*", "sqs:*", "sns:*",
    "apigateway:*", "elasticache:*"] ++
  [ "                Resource: '*'",
    "                Condition:",
    "                  StringEqualsIfExists:",
    "                    'aws:RequestTag/ManagedBy': '" ++ app ++ "'",
    "              - Sid: TaggedResourceManagement",
    "                Effect: Allow",
    "                Action:" ] ++
  bullets [
    "ec2:*", "rds:*", "s3:*", "lambda:*", "dynamodb:*", "elasticloadbalancing:*", "ecs:*"] ++
  [ "                Resource: '*'",
    "                Condition:",
    "                  StringEquals:",
    "                    'aws:ResourceTag/ManagedBy': '" ++ app ++ "'",
    "              - Sid: IAMPassRole",
    "                Effect: Allow",
    "                Action:" ] ++
  bullets [
    "iam:PassRole", "iam:CreateRole", "iam:AttachRolePolicy", "iam:DetachRolePolicy",
    "iam:DeleteRole", "iam:GetRole", "iam:CreatePolicy", "iam:DeletePolicy"] ++
  [ "                Resource:",
    "                  - 'arn:aws:iam::*:role/" ++ app ++ "-*'",
    "                  - 'arn:aws:iam::*:policy/" ++ app ++ "-*'",
    "              - Sid: KMSAccess",
    "                Effect: Allow",
    "                Action:" ] ++
  bullets [
    "kms:CreateKey", "kms:CreateAlias", "kms:Encrypt", "kms:Decrypt", "kms:DescribeKey",
    "kms:TagResource"] ++
  [ "                Resource: '*'",
    "              - Sid: ReadOnly",
    "                Effect: Allow",
    "                Action:" ] ++
  bullets [
    "sts:GetCallerIdentity", "iam:ListRoles", "iam:ListPolicies", "ec2:DescribeAvailabilityZones",
    "ec2:DescribeRegions"] ++
  [ "                Resource: '*'",
    "",
    "Outputs:",
    "  RoleArn:",
    "    Description: ARN of the deployment role",
    "    Value: !GetAtt DeploymentRole.Arn",
    "  ExternalId:",
    "    Description: External ID for the role",
    "    Value: !Ref ExternalId",
    "" ]

/-- **The template of the role to deploy with**, which trusts an account that gives the external
identifier. -/
def deployRoleTemplate (app external account : String) : String :=
  "\n".intercalate (deployRoleLines app external account)

/-- What the reading role may do. -/
def readActions : List String := [
  "ec2:Describe*", "rds:Describe*", "s3:ListAllMyBuckets", "s3:GetBucketLocation",
  "s3:GetBucketVersioning", "s3:GetPublicAccessBlock", "s3:GetBucketEncryption", "s3:ListBucket",
  "iam:ListUsers", "iam:ListRoles", "iam:ListAccessKeys", "iam:GetAccessKeyLastUsed",
  "lambda:ListFunctions", "dynamodb:ListTables", "dynamodb:DescribeTable",
  "dynamodb:DescribeContinuousBackups", "elasticloadbalancing:Describe*", "ecs:List*",
  "ecs:Describe*", "eks:ListClusters", "eks:DescribeCluster", "cloudfront:ListDistributions",
  "route53:ListHostedZones", "sns:ListTopics", "sqs:ListQueues", "elasticache:Describe*",
  "ce:GetCostAndUsage", "logs:DescribeLogGroups"]

/-- The lines of the template of the reading role. -/
def readRoleLines (app external account : String) : List String :=
  [ "AWSTemplateFormatVersion: '2010-09-09'",
    "Description: '" ++ app ++ " cross-account read-only access role'",
    "Parameters:",
    "  ExternalId:",
    "    Type: String",
    "    Description: 'External ID that secures the connection'",
    "    Default: '" ++ external ++ "'",
    "Resources:",
    "  ConnectRole:",
    "    Type: 'AWS::IAM::Role'",
    "    Properties:",
    "      RoleName: " ++ app ++ "-connect-role",
    "      AssumeRolePolicyDocument:",
    "        Version: '2012-10-17'",
    "        Statement:",
    "          - Effect: Allow",
    "            Principal:",
    "              AWS: 'arn:aws:iam::" ++ account ++ ":root'",
    "            Action: 'sts:AssumeRole'",
    "            Condition:",
    "              StringEquals:",
    "                'sts:ExternalId': !Ref ExternalId",
    "      Policies:",
    "        - PolicyName: " ++ app ++ "-read-only",
    "          PolicyDocument:",
    "            Version: '2012-10-17'",
    "            Statement:",
    "              - Effect: Allow",
    "                Action:" ] ++
  bullets readActions ++
  [ "                Resource: '*'",
    "Outputs:",
    "  RoleArn:",
    "    Description: 'ARN of the role to register'",
    "    Value: !GetAtt ConnectRole.Arn",
    "" ]

/-- **The template of the reading role**, which trusts an account that gives the external
identifier. -/
def readRoleTemplate (app external account : String) : String :=
  "\n".intercalate (readRoleLines app external account)

end Groundplan
