import Preflight.Finding.Kind

/-!
# Messages

The message of a finding is a sentence with places for its payload. The sentence of each kind is a
list of pieces, so that what a message needs can be read off it.
-/

set_option autoImplicit false

namespace Preflight

/-- A piece of a sentence: words, or the place of a part of the payload. -/
inductive Piece
  | words (text : String)
  | subject
  | method
  | path
  | file
  | detail
  deriving Repr, DecidableEq

/-- The sentence of each kind. -/
def Kind.sentence : Kind → List Piece
  | .envFileMissing => [.words "MISSING: .env file not found"]
  | .envExampleMissing =>
    [.words ".env.example missing (", .detail, .words " for team collaboration)"]
  | .missingEnvVar => [.words "MISSING: ", .subject]
  | .emptySecret => [.words "EMPTY: ", .subject, .words " is empty"]
  | .weakSecret => [.words "WEAK SECRET: ", .subject, .words " (length < 32)"]
  | .shortSecret => [.words "WEAK: ", .subject, .words " might be too short (length < 16)"]
  | .unusedEnvVars => [.words "UNUSED: Variables in .env but not in .env.example: ", .detail]
  | .invalidUrl => [.words "INVALID URL: ", .subject, .words " does not appear to be a valid URL"]
  | .invalidEmail =>
    [.words "INVALID EMAIL: ", .subject, .words " does not appear to be a valid email"]
  | .invalidPort => [.words "INVALID PORT: ", .subject, .words " should be a number"]
  | .noRouteFiles => [.words "No route files found. Make sure your project structure is standard."]
  | .unprotectedRoute =>
    [.words "Route ", .method, .words " ", .path, .words " missing auth middleware (", .file,
     .words ")"]
  | .jwtExpiryTooLong =>
    [.words "JWT expiry too long: ", .detail, .words " (recommended: < 7 days)"]
  | .jwtExpiryLong => [.words "JWT expiry is ", .detail, .words " (recommended: < 7 days)"]
  | .missingHealthEndpoint =>
    [.words "/health endpoint missing (recommended for monitoring and load balancers)"]
  | .postWithoutCollectionGet =>
    [.words "POST ", .path, .words " exists but no GET endpoint for collection"]
  | .updateWithoutGet => [.method, .words " ", .path, .words " exists but no GET endpoint"]
  | .readmeMissing => [.words "README missing"]
  | .readmeTooShort => [.words "README exists but seems too short or empty"]
  | .readmeNoInstructions => [.words "README missing installation or usage instructions"]
  | .noStandardStructure => [.words "No standard project structure detected (src/, routes/, etc.)"]
  | .noErrorHandler =>
    [.words "Error handling middleware not found (recommended: global error handler)"]
  | .packageJsonMissing => [.words "package.json not found"]
  | .packageJsonMalformed => [.words "package.json is malformed"]
  | .missingStartScript => [.words "package.json missing \"start\" script"]
  | .missingDescription => [.words "package.json missing \"description\" field"]
  | .corsWildcard =>
    [.words "CORS configured with wildcard origin (*) - security risk (", .file, .words ")"]
  | .corsMissing => [.words "CORS middleware not detected (recommended for API security)"]
  | .securityHeadersMissing =>
    [.words "Security headers not configured (use Helmet.js or configure manually)"]
  | .rateLimitMissing => [.words "Rate limiting not detected (recommended to prevent abuse)"]
  | .securityPackageMissing =>
    [.words "Security package \"", .subject,
     .words "\" not found (recommended: npm install ", .subject, .words ")"]
  | .evalUsage => [.words "eval() usage detected in ", .file, .words " - security risk"]
  | .dynamicRegex =>
    [.words "Dynamic regex construction in ", .file, .words " - potential ReDoS risk"]
  | .lockFileMissing =>
    [.words "Lock file (package-lock.json, yarn.lock or pnpm-lock.yaml) not found ",
     .words "(recommended for reproducible builds)"]
  | .noWebFramework => [.words "No major web framework detected (Express, Fastify, Koa, NestJS)"]
  | .missingSecurityPackages => [.words "Missing security packages: ", .detail]
  | .outdatedPackage => [.subject, .words " version might be outdated - ", .detail]
  | .tooManyDependencies =>
    [.words "Large number of dependencies (", .detail,
     .words ") - consider reviewing for unused packages"]
  | .devToolsInStart =>
    [.words "Development tools in start script (use production tools in production)"]
  | .dbConnectionHandlingMissing => [.words "Database connection error handling not detected"]
  | .dbLocalhostUrl =>
    [.words "Database URL points to localhost (ensure production uses remote database)"]
  | .dbPoolingMissing => [.words "Connection pooling not detected (recommended for production)"]
  | .dbMigrationsMissing =>
    [.words "No migration files detected (recommended for database versioning)"]
  | .moduleError => [.words "Check module '", .subject, .words "' encountered an error: ", .detail]

end Preflight
