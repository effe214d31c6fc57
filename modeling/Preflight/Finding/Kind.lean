/-!
# Kinds of findings

Everything that a check can find, by kind, with the tag that names the kind in a report.
`ofTag?_tag` says that a tag leads back to its kind.
-/

set_option autoImplicit false

namespace Preflight

/-- What a finding is about. -/
inductive Kind
  | envFileMissing
  | envExampleMissing
  | missingEnvVar
  | emptySecret
  | weakSecret
  | shortSecret
  | unusedEnvVars
  | invalidUrl
  | invalidEmail
  | invalidPort
  | noRouteFiles
  | unprotectedRoute
  | jwtExpiryTooLong
  | jwtExpiryLong
  | missingHealthEndpoint
  | postWithoutCollectionGet
  | updateWithoutGet
  | readmeMissing
  | readmeTooShort
  | readmeNoInstructions
  | noStandardStructure
  | noErrorHandler
  | packageJsonMissing
  | packageJsonMalformed
  | missingStartScript
  | missingDescription
  | corsWildcard
  | corsMissing
  | securityHeadersMissing
  | rateLimitMissing
  | securityPackageMissing
  | evalUsage
  | dynamicRegex
  | lockFileMissing
  | noWebFramework
  | missingSecurityPackages
  | outdatedPackage
  | tooManyDependencies
  | devToolsInStart
  | dbConnectionHandlingMissing
  | dbLocalhostUrl
  | dbPoolingMissing
  | dbMigrationsMissing
  | moduleError
  deriving Repr, DecidableEq

namespace Kind

/-- The name of the kind in a report. -/
def tag : Kind → String
  | .envFileMissing => "env_file_missing"
  | .envExampleMissing => "env_example_missing"
  | .missingEnvVar => "missing_env_var"
  | .emptySecret => "empty_secret"
  | .weakSecret => "weak_secret"
  | .shortSecret => "short_secret"
  | .unusedEnvVars => "unused_env_vars"
  | .invalidUrl => "invalid_url"
  | .invalidEmail => "invalid_email"
  | .invalidPort => "invalid_port"
  | .noRouteFiles => "no_route_files"
  | .unprotectedRoute => "unprotected_route"
  | .jwtExpiryTooLong => "jwt_expiry_too_long"
  | .jwtExpiryLong => "jwt_expiry_long"
  | .missingHealthEndpoint => "missing_health_endpoint"
  | .postWithoutCollectionGet => "post_without_collection_get"
  | .updateWithoutGet => "update_without_get"
  | .readmeMissing => "readme_missing"
  | .readmeTooShort => "readme_too_short"
  | .readmeNoInstructions => "readme_no_instructions"
  | .noStandardStructure => "no_standard_structure"
  | .noErrorHandler => "no_error_handler"
  | .packageJsonMissing => "package_json_missing"
  | .packageJsonMalformed => "package_json_malformed"
  | .missingStartScript => "missing_start_script"
  | .missingDescription => "missing_description"
  | .corsWildcard => "cors_wildcard"
  | .corsMissing => "cors_missing"
  | .securityHeadersMissing => "security_headers_missing"
  | .rateLimitMissing => "rate_limit_missing"
  | .securityPackageMissing => "security_package_missing"
  | .evalUsage => "eval_usage"
  | .dynamicRegex => "dynamic_regex"
  | .lockFileMissing => "lock_file_missing"
  | .noWebFramework => "no_web_framework"
  | .missingSecurityPackages => "missing_security_packages"
  | .outdatedPackage => "outdated_package"
  | .tooManyDependencies => "too_many_dependencies"
  | .devToolsInStart => "dev_tools_in_start"
  | .dbConnectionHandlingMissing => "db_connection_handling_missing"
  | .dbLocalhostUrl => "db_localhost_url"
  | .dbPoolingMissing => "db_pooling_missing"
  | .dbMigrationsMissing => "db_migrations_missing"
  | .moduleError => "module_error"

/-- All kinds. -/
def all : List Kind :=
  [.envFileMissing, .envExampleMissing, .missingEnvVar, .emptySecret, .weakSecret, .shortSecret,
   .unusedEnvVars, .invalidUrl, .invalidEmail, .invalidPort, .noRouteFiles, .unprotectedRoute,
   .jwtExpiryTooLong, .jwtExpiryLong, .missingHealthEndpoint, .postWithoutCollectionGet,
   .updateWithoutGet, .readmeMissing, .readmeTooShort, .readmeNoInstructions,
   .noStandardStructure, .noErrorHandler, .packageJsonMissing, .packageJsonMalformed,
   .missingStartScript, .missingDescription, .corsWildcard, .corsMissing, .securityHeadersMissing,
   .rateLimitMissing, .securityPackageMissing, .evalUsage, .dynamicRegex, .lockFileMissing,
   .noWebFramework, .missingSecurityPackages, .outdatedPackage, .tooManyDependencies,
   .devToolsInStart, .dbConnectionHandlingMissing, .dbLocalhostUrl, .dbPoolingMissing,
   .dbMigrationsMissing, .moduleError]

/-- The kind with the tag. -/
def ofTag? (t : String) : Option Kind :=
  all.find? (·.tag == t)

/-- A tag leads back to its kind. -/
theorem ofTag?_tag (k : Kind) : ofTag? k.tag = some k := by
  cases k <;> decide

end Kind

end Preflight
