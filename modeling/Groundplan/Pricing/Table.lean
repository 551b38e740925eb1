import Groundplan.Data

/-!
# Price tables

On-demand prices in US dollars for the region us-east-1: hourly rates of instance classes, monthly
rates of storage, and flat monthly figures for what is billed mostly by use. For other regions there
are factors, and the places by which the price list knows them.

## Main definitions

* `instanceRates`, `databaseRates`, `cacheRates`: hourly rates by class
* `engineFactors`: what a database engine costs relative to MySQL
* `storageRates`: rates per gigabyte and month
* `flatCosts`: flat monthly figures
* `sizeFactors`: the relative size of an instance within its family
* `location?`: the place of a region
* `regionFactor`: the factor of a region; one where it is unknown
-/

namespace Groundplan.Pricing

/-! ## Rates -/

/-- Hours in a month, round the clock. -/
def hoursPerMonth : Binary64 := 730

/-- Hourly rates of virtual machines. -/
def instanceRates : Entries Binary64 := [
  ("t3.nano", 0.0052), ("t3.micro", 0.0104), ("t3.small", 0.0208), ("t3.medium", 0.0416),
  ("t3.large", 0.0832), ("t3.xlarge", 0.1664), ("t3.2xlarge", 0.3328), ("t3a.nano", 0.0047),
  ("t3a.micro", 0.0094), ("t3a.small", 0.0188), ("t3a.medium", 0.0376), ("t3a.large", 0.0752),
  ("t3a.xlarge", 0.1504), ("t3a.2xlarge", 0.3008), ("t4g.nano", 0.0042), ("t4g.micro", 0.0084),
  ("t4g.small", 0.0168), ("t4g.medium", 0.0336), ("t4g.large", 0.0672), ("t4g.xlarge", 0.1344),
  ("t4g.2xlarge", 0.2688), ("m5.large", 0.096), ("m5.xlarge", 0.192), ("m5.2xlarge", 0.384),
  ("m6i.large", 0.096), ("m6i.xlarge", 0.192), ("m6i.2xlarge", 0.384), ("m6g.medium", 0.0385),
  ("m6g.large", 0.077), ("m6g.xlarge", 0.154), ("m6g.2xlarge", 0.308), ("m7g.medium", 0.0408),
  ("m7g.large", 0.0816), ("m7g.xlarge", 0.1632), ("m7g.2xlarge", 0.3264), ("c5.large", 0.085),
  ("c5.xlarge", 0.17), ("c5.2xlarge", 0.34), ("c6i.large", 0.085), ("c6i.xlarge", 0.17),
  ("c6i.2xlarge", 0.34), ("c6g.medium", 0.034), ("c6g.large", 0.068), ("c6g.xlarge", 0.136),
  ("c6g.2xlarge", 0.272), ("c7g.medium", 0.0363), ("c7g.large", 0.0725), ("c7g.xlarge", 0.145),
  ("c7g.2xlarge", 0.29), ("r5.large", 0.126), ("r5.xlarge", 0.252), ("r5.2xlarge", 0.504),
  ("r6i.large", 0.126), ("r6i.xlarge", 0.252), ("r6i.2xlarge", 0.504), ("r6g.medium", 0.0504),
  ("r6g.large", 0.1008), ("r6g.xlarge", 0.2016), ("r6g.2xlarge", 0.4032)]

/-- Hourly rates of MySQL databases. -/
def databaseRates : Entries Binary64 := [
  ("db.t3.micro", 0.017), ("db.t3.small", 0.034), ("db.t3.medium", 0.068), ("db.t3.large", 0.136),
  ("db.t3.xlarge", 0.272), ("db.t3.2xlarge", 0.544), ("db.t4g.micro", 0.016),
  ("db.t4g.small", 0.032), ("db.t4g.medium", 0.065), ("db.t4g.large", 0.129),
  ("db.t4g.xlarge", 0.258), ("db.t4g.2xlarge", 0.516), ("db.m5.large", 0.115),
  ("db.m5.xlarge", 0.230), ("db.m5.2xlarge", 0.460), ("db.m6g.large", 0.105),
  ("db.m6g.xlarge", 0.210), ("db.m6g.2xlarge", 0.420), ("db.r5.large", 0.145),
  ("db.r5.xlarge", 0.290), ("db.r5.2xlarge", 0.580), ("db.r6g.large", 0.130),
  ("db.r6g.xlarge", 0.260), ("db.r6g.2xlarge", 0.520)]

/-- What a database engine costs relative to MySQL. -/
def engineFactors : Entries Binary64 := [
  ("mysql", 1.0), ("mariadb", 1.0), ("postgres", 1.08), ("aurora-mysql", 1.15),
  ("aurora-postgresql", 1.18), ("oracle-ee", 2.8), ("oracle-se2", 1.6), ("sqlserver-ee", 3.2),
  ("sqlserver-se", 1.9), ("sqlserver-ex", 1.0), ("sqlserver-web", 1.2)]

/-- The names that the price list gives to database engines. -/
def engineListNames : Entries String := [
  ("postgres", "PostgreSQL"), ("mysql", "MySQL"), ("mariadb", "MariaDB"),
  ("aurora-mysql", "Aurora MySQL"), ("aurora-postgresql", "Aurora PostgreSQL"),
  ("oracle-ee", "Oracle"), ("oracle-se2", "Oracle"), ("sqlserver-ee", "SQL Server"),
  ("sqlserver-se", "SQL Server"), ("sqlserver-ex", "SQL Server"), ("sqlserver-web", "SQL Server")]

/-- Rates of storage per gigabyte and month. -/
def storageRates : Entries Binary64 := [
  ("s3_standard", 0.023), ("ebs_gp3", 0.08), ("ebs_gp2", 0.10), ("ebs_io1", 0.125),
  ("ebs_io2", 0.125), ("ebs_st1", 0.045), ("ebs_sc1", 0.015), ("ebs_standard", 0.05),
  ("rds_storage", 0.115), ("dynamodb_storage", 0.25)]

/-- Hourly rates of cache nodes. -/
def cacheRates : Entries Binary64 := [
  ("cache.t3.micro", 0.017), ("cache.t3.small", 0.034), ("cache.t3.medium", 0.068),
  ("cache.t4g.micro", 0.016), ("cache.t4g.small", 0.032), ("cache.t4g.medium", 0.065),
  ("cache.m5.large", 0.124), ("cache.m5.xlarge", 0.248), ("cache.m6g.large", 0.113),
  ("cache.m6g.xlarge", 0.226), ("cache.r5.large", 0.166), ("cache.r5.xlarge", 0.332),
  ("cache.r6g.large", 0.150), ("cache.r6g.xlarge", 0.300)]

/-- The size of an instance relative to a small one of its family. -/
def sizeFactors : Entries Binary64 := [
  ("nano", 0.25), ("micro", 0.5), ("small", 1), ("medium", 2), ("large", 4), ("xlarge", 8),
  ("2xlarge", 16), ("4xlarge", 32), ("8xlarge", 64), ("12xlarge", 96), ("16xlarge", 128),
  ("24xlarge", 192)]

/-- Flat monthly figures for resources that are billed mostly by use. -/
def flatCosts : Entries Binary64 := [
  ("aws_s3_bucket", 0.50), ("aws_eip", 3.65), ("aws_cloudfront_distribution", 1.0),
  ("aws_route53_zone", 0.50), ("aws_api_gateway_rest_api", 3.50), ("aws_apigatewayv2_api", 3.50),
  ("aws_kms_key", 1.0), ("aws_secretsmanager_secret", 0.40), ("aws_cloudwatch_log_group", 0.50),
  ("aws_eks_cluster", 0.10 * 730), ("aws_ecs_cluster", 0.0), ("aws_sqs_queue", 0.0),
  ("aws_sns_topic", 0.0), ("aws_lambda_function", 0.0)]

/-- The hourly rate of a unit of size for instances in no table. -/
def unitRate : Binary64 := 0.012

/-- The monthly rate of a provisioned operation per second. -/
def iopsRate : Binary64 := 0.065

/-- The hourly rate of a unit of write capacity. -/
def writeUnitRate : Binary64 := 0.00065

/-- The hourly rate of a unit of read capacity. -/
def readUnitRate : Binary64 := 0.00013

/-- The hourly rate of a processor of a container task. -/
def taskProcessorRate : Binary64 := 0.04048

/-- The hourly rate of a gigabyte of memory of a container task. -/
def taskMemoryRate : Binary64 := 0.004445

/-! ## Regions -/

/-- The places by which the price list knows the regions. -/
def regionLocations : Entries String := [
  ("us-east-1", "US East (N. Virginia)"), ("us-east-2", "US East (Ohio)"),
  ("us-west-1", "US West (N. California)"), ("us-west-2", "US West (Oregon)"),
  ("ca-central-1", "Canada (Central)"), ("ap-south-1", "Asia Pacific (Mumbai)"),
  ("ap-southeast-1", "Asia Pacific (Singapore)"), ("ap-southeast-2", "Asia Pacific (Sydney)"),
  ("ap-northeast-1", "Asia Pacific (Tokyo)"), ("ap-northeast-2", "Asia Pacific (Seoul)"),
  ("ap-northeast-3", "Asia Pacific (Osaka)"), ("eu-west-1", "EU (Ireland)"),
  ("eu-west-2", "EU (London)"), ("eu-west-3", "EU (Paris)"), ("eu-central-1", "EU (Frankfurt)"),
  ("eu-north-1", "EU (Stockholm)"), ("sa-east-1", "South America (Sao Paulo)"),
  ("me-south-1", "Middle East (Bahrain)"), ("af-south-1", "Africa (Cape Town)")]

/-- What a region costs relative to us-east-1. -/
def regionFactors : Entries Binary64 := [
  ("us-east-1", 1.0), ("us-east-2", 1.0), ("us-west-1", 1.05), ("us-west-2", 1.02),
  ("ca-central-1", 1.04), ("eu-west-1", 1.05), ("eu-west-2", 1.07), ("eu-west-3", 1.08),
  ("eu-central-1", 1.06), ("eu-north-1", 1.05), ("ap-southeast-1", 1.10), ("ap-southeast-2", 1.12),
  ("ap-northeast-1", 1.15), ("ap-northeast-2", 1.12), ("ap-northeast-3", 1.15),
  ("ap-south-1", 1.08), ("sa-east-1", 1.20), ("me-south-1", 1.12), ("af-south-1", 1.14)]

/-- The place by which the price list knows a region. -/
def location? (region : String) : Option String :=
  Entries.get? region regionLocations

/-- What a region costs relative to us-east-1; one where it is unknown. -/
def regionFactor (region : String) : Binary64 :=
  (Entries.get? region regionFactors).getD 1

end Groundplan.Pricing
